import NodeFeed.Tail

/-!
The `tail` program on the command line. Frames come from standard input, one a line, as hexadecimal
parts with blanks between them; they are what the publisher at the given address publishes.
-/

namespace NodeFeed.Main

def frameOfLine? (line : String) : Option Frame :=
  (line.trimAscii.copy.splitOn " ").mapM Bytes.ofHex?

partial def readFrames (input : IO.FS.Stream) (frames : Array Frame) : IO (List Frame) := do
  let line ← input.getLine
  if line.isEmpty then return frames.toList
  match frameOfLine? line with
  | some f => readFrames input (frames.push f)
  | none => readFrames input frames

end NodeFeed.Main

open NodeFeed in
def main (args : List String) : IO UInt32 := do
  let frames ← Main.readFrames (← IO.getStdin) #[]
  let publisher := args.head?.getD Tail.usualAddress
  let transcript := Tail.run ⟨Address.check, publisher⟩ args frames
  for line in transcript.opening ++ transcript.perFrame.flatten ++ transcript.closing do
    IO.println line
  IO.eprint transcript.failure
  return UInt32.ofNat transcript.exitCode
