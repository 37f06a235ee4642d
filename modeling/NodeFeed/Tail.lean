import NodeFeed.Subscriber
import NodeFeed.Worker

/-!
The `tail` program: it subscribes to every topic, prints a line for each event until it is
interrupted, and warns where the counter of a hash topic does not go on from the one before. Zero
stands for no counter yet, so no warning follows a zero.
-/

namespace NodeFeed.Tail

structure Network where
  check : String → Except Errno Unit
  publisher : String

inductive NumberError where
  | empty
  | invalidDigit
  | tooLarge
  deriving DecidableEq, Repr

def NumberError.message : NumberError → String
  | empty => "cannot parse integer from empty string"
  | invalidDigit => "invalid digit found in string"
  | tooLarge => "number too large to fit in target type"

def readDigits (n : Nat) : List Char → Except NumberError Nat
  | [] => .ok n
  | c :: rest =>
    if !c.isDigit then .error .invalidDigit
    else
      let n := n * 10 + (c.toNat - 48)
      if 2 ^ 64 ≤ n then .error .tooLarge else readDigits n rest

def readCapacity (s : String) : Except NumberError UInt64 :=
  let digits : Except NumberError Nat := match s.toList with
    | [] => .error .empty
    | ['+'] => .error .invalidDigit
    | '+' :: rest => readDigits 0 rest
    | rest => readDigits 0 rest
  digits.map UInt64.ofNat

inductive Printer where
  | hash (name : String) (last : UInt32)
  | raw (name : String)
  | sequence
  deriving DecidableEq, Repr

def line (level : Level) (message : String) (fields : List (String × LogValue)) : LogLine :=
  ⟨level, "tail", message, fields⟩

def number (n : Nat) : LogValue := .form (toString n)

namespace Printer

def onHash (name : String) (last : UInt32) (e : HashEvent) : Printer × List LogLine :=
  let gap := if last != 0 && e.counter != last + 1 then
      [line .warn "gap in publisher counter" [("topic", .text name),
        ("prev", number last.toNat), ("next", number e.counter.toNat)]]
    else []
  (.hash name e.counter, gap ++ [line .info "" [("topic", .text name),
    ("hash", .form e.hash.text), ("seq", number e.counter.toNat)]])

def onEvent (p : Printer) (e : Event) : Printer × List LogLine :=
  match p, e with
  | hash name last, .hash e => onHash name last e
  | raw name, .raw e => (p, [line .info "" [("topic", .text name),
      ("bytes", number e.payload.length), ("seq", number e.counter.toNat)]])
  | sequence, .sequence e => (p, [line .info "" [("topic", .text "sequence"),
      ("kind", .form e.kind.title), ("hash", .form e.hash.text),
      ("mempool", .form e.mempoolForm)]])
  | _, _ => (p, [])

def onEvents (p : Printer) : List Event → Printer × List LogLine
  | [] => (p, [])
  | e :: rest =>
    let (p, lines) := p.onEvent e
    let (p, more) := onEvents p rest
    (p, lines ++ more)

def onClosed : Printer → List LogLine
  | hash name _ => [line .info "stream closed" [("topic", .text name)]]
  | raw _ | sequence => []

def ofTopic : Topic → Printer
  | .hashTx => hash "hashtx" 0
  | .hashBlock => hash "hashblock" 0
  | .rawTx => raw "rawtx"
  | .rawBlock => raw "rawblock"
  | .sequence => sequence

def name : Printer → String
  | hash name _ | raw name => name
  | sequence => "sequence"

end Printer

def topics : List Topic := [.hashBlock, .hashTx, .rawBlock, .rawTx, .sequence]

structure Printing where
  worker : Worker
  printer : Printer
  printed : Nat

structure Running where
  engine : Engine
  printings : List Printing

def linesOf (log : List Report) : List LogLine := log.map Report.line

def Printing.run (p : Printing) (b : Backend) : Printing × Backend × List LogLine :=
  let r := p.worker.run b
  let worker := r.state.1
  let (printer, lines) := p.printer.onEvents (worker.given.drop p.printed)
  let closing := if p.worker.closedCalls < worker.closedCalls then printer.onClosed else []
  (⟨worker, printer, worker.given.length⟩, r.state.2, lines ++ closing ++ linesOf r.log)

def runPrintings (b : Backend) : List Printing → List Printing × Backend × List LogLine
  | [] => ([], b, [])
  | p :: rest =>
    let (p, b, lines) := p.run b
    let (rest, b, more) := runPrintings b rest
    (p :: rest, b, lines ++ more)

def Running.run (r : Running) : Running × List LogLine :=
  let (printings, backend, lines) := runPrintings r.engine.backend r.printings
  ({ engine := { r.engine with backend }, printings }, lines)

def isPrinted (l : LogLine) : Bool := Level.info.rank ≤ l.level.rank

def printed (lines : List LogLine) : List String := (lines.filter isPrinted).map LogLine.render

def publish (r : Running) : List Frame → Running × List (List String)
  | [] => (r, [])
  | f :: rest =>
    let (engine, log) :=
      if r.engine.stage = .polling ∧ r.engine.filters.passes f then r.engine.onFrame f
      else (r.engine, [])
    let (r, lines) := Running.run { r with engine }
    let (r, more) := publish r rest
    (r, printed (linesOf log ++ lines) :: more)

structure Failure where
  exitCode : Nat
  text : String

namespace Failure

def ofError (message : String) (cause : Option String) : Failure :=
  ⟨1, "Error: " ++ message ++ "\n" ++
    match cause with
    | none => ""
    | some cause => "\nCaused by:\n    " ++ cause ++ "\n"⟩

def ofOverflow (e : Overflow) : Failure := ⟨101, e.message ++ "\n"⟩

end Failure

structure Transcript where
  exitCode : Nat
  failure : String
  filters : List String
  opening : List String
  perFrame : List (List String)
  closing : List String

def Transcript.others (t : Transcript) : List String :=
  (t.opening ++ t.closing).mergeSort fun a b => !decide (b < a)

def failed (lines : List LogLine) (f : Failure) : Transcript :=
  ⟨f.exitCode, f.text, [], printed lines, [], []⟩

def dropLines (s : Subscriber) : List LogLine :=
  let turn := s.drop
  linesOf (turn.log ++ turn.handlerLog)

def subscribeAll (s : Subscriber) : List Topic →
    Except (Failure × List LogLine) (Subscriber × List Printing × List Notice × List LogLine)
  | [] => .ok (s, [], [], [])
  | t :: rest =>
    let r := s.subscribe t
    match r.answer with
    | .refused e => .error (.ofError e.message e.cause, dropLines r.state)
    | .overflow => .error (.ofOverflow .overflow, dropLines r.state)
    | .added sub => do
      let printer := Printer.ofTopic t
      let consumer : Consumer := ⟨printer.name, false, [], true, false⟩
      let settled := r.state.settle
      let (s, printings, notices, lines) ← subscribeAll settled.subscriber rest
      return (s, ⟨.spawn sub consumer, printer, 0⟩ :: printings, settled.notices ++ notices,
        linesOf (r.log ++ settled.handlerLog) ++ lines)

def stayUp (s : Subscriber) (e : Engine) (printings : List Printing) (frames : List Frame) :
    List LogLine × List (List String) × List LogLine :=
  let (r, start) := Running.run ⟨e, printings⟩
  let (r, perFrame) := publish r frames
  let (_, turn) := { s with engine := some r.engine }.close
  let rest := match turn.subscriber.engine with
    | none => []
    | some engine => (Running.run { r with engine }).2
  (start, perFrame, line .info "interrupted, shutting down" [] ::
    linesOf (turn.log ++ turn.handlerLog) ++ rest)

def usualAddress : String := "tcp://127.0.0.1:28332"

def run (net : Network) (args : List String) (frames : List Frame) : Transcript :=
  let address := args.head?.getD usualAddress
  match (args[1]?.map readCapacity).getD (.ok 0) with
  | .error e => failed [] (.ofError e.message none)
  | .ok capacity =>
    match Subscriber.new net.check ⟨address, capacity⟩ with
    | .error e => failed [] (.ofError e.message (some e.cause))
    | .ok (s, opening) =>
      match subscribeAll s topics with
      | .error (f, lines) => failed (linesOf opening ++ lines) f
      | .ok (s, printings, notices, lines) =>
        match s.engine with
        | none => failed (linesOf opening) (.ofError SubscribeError.disabled.message none)
        | some e =>
          let atPublisher := address == net.publisher
          let (start, perFrame, closing) := stayUp s e printings (if atPublisher then frames else [])
          let asked := notices.filterMap fun
            | .wanted t => some t.name
            | .unwanted _ => none
          { exitCode := 0
            failure := ""
            filters := if atPublisher then asked else []
            opening := printed (linesOf opening ++ lines ++ start)
            perFrame
            closing := printed closing }

end NodeFeed.Tail
