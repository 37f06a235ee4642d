import NodeFeed.Control

/-!
The frames that say a command. A subscription is asked for or given up by a word and a topic's label, the end
of the handler by a word alone, and the parts behind say nothing. Reading accepts these frames and no others;
what it takes from them is what writing puts there, but for the second part of `term`, which may be anything.
-/

namespace NodeFeed.Command

def about : Verb → Topic → Command
  | .subscribe, t => subscribe t
  | .unsubscribe, t => unsubscribe t

inductive Says : Frame → Command → Prop where
  | about (v : Verb) (t : Topic) (rest : List Bytes) : Says (v.bytes :: t.label :: rest) (about v t)
  | term (rest : List Bytes) : Says (termBytes :: rest) term

structure ReadsGrammar (f : Frame) : Prop where
  term : decode? f = some .term ↔ f[0]? = some termBytes
  about : ∀ v t, decode? f = some (.about v t) ↔ f[0]? = some v.bytes ∧ f[1]? = some t.label
  nothing : decode? f = none ↔
    f[0]? ≠ some termBytes ∧ ∀ (v : Verb) (t : Topic), ¬ (f[0]? = some v.bytes ∧ f[1]? = some t.label)
  restored : ∀ c, decode? f = some c → c ≠ .term → c.encode = f.take 2

variable {f : Frame} {c : Command}

theorem sound (read : decode? f = some c) : Says f c := by
  cases f with
  | nil => cases read
  | cons word rest =>
    by_cases last : word = termBytes
    · cases Option.some.inj ((if_pos last).symm.trans read)
      exact last ▸ .term rest
    · simp only [decode?, if_neg last] at read
      cases rest with
      | nil => cases read
      | cons label rest =>
        obtain ⟨t, known, chosen⟩ := Option.bind_eq_some_iff.mp read
        cases Topic.labelExact.mp known
        split at chosen
        case isTrue asked =>
          cases Option.some.inj chosen
          exact asked ▸ .about .subscribe t rest
        case isFalse =>
          split at chosen
          case isTrue asked =>
            cases Option.some.inj chosen
            exact asked ▸ .about .unsubscribe t rest
          case isFalse => cases chosen

theorem complete (spoken : Says f c) : decode? f = some c := by
  cases spoken with
  | term rest => rfl
  | about v t rest =>
    have word : v.bytes ≠ termBytes := by cases v <;> decide
    have other : Verb.unsubscribe.bytes ≠ Verb.subscribe.bytes := by decide
    simp only [decode?, if_neg word, Topic.labelRead, bind, Option.bind]
    cases v with
    | subscribe => exact if_pos rfl
    | unsubscribe => exact (if_neg other).trans (if_pos rfl)

theorem saysTerm : Says f .term ↔ f[0]? = some termBytes := by
  constructor
  · intro spoken
    generalize said : Command.term = c at spoken
    cases spoken with
    | about v t rest => cases v <;> cases said
    | term rest => rfl
  · intro there
    cases f with
    | nil => cases there
    | cons word rest => exact Option.some.inj there ▸ .term rest

theorem saysAbout {v : Verb} {t : Topic} :
    Says f (.about v t) ↔ f[0]? = some v.bytes ∧ f[1]? = some t.label := by
  constructor
  · intro spoken
    generalize said : Command.about v t = c at spoken
    cases spoken with
    | about w u rest =>
      cases v <;> cases w <;> cases said <;> exact ⟨rfl, rfl⟩
    | term rest => cases v <;> cases said
  · rintro ⟨word, label⟩
    match f with
    | [] => cases word
    | [_] => cases label
    | _ :: _ :: rest =>
      cases Option.some.inj word
      cases Option.some.inj label
      exact .about v t rest

theorem decodedSays : decode? f = some c ↔ Says f c := ⟨sound, complete⟩

theorem saidOnly (spoken : Says f c) :
    f[0]? = some termBytes ∨ ∃ v : Verb, ∃ t : Topic, f[0]? = some v.bytes ∧ f[1]? = some t.label := by
  cases spoken with
  | about v t rest => exact .inr ⟨v, t, rfl, rfl⟩
  | term rest => exact .inl rfl

theorem grammarRead (f : Frame) : ReadsGrammar f where
  term := decodedSays.trans saysTerm
  about _ _ := decodedSays.trans saysAbout
  nothing := by
    constructor
    · intro unread
      have silent (c : Command) : ¬ Says f c := fun spoken => nomatch unread.symm.trans (complete spoken)
      exact ⟨fun last => silent _ (saysTerm.mpr last), fun v t asked => silent _ (saysAbout.mpr asked)⟩
    · rintro ⟨last, asked⟩
      cases read : decode? f with
      | none => rfl
      | some c =>
        rcases saidOnly (sound read) with there | ⟨v, t, there⟩
        · exact absurd there last
        · exact absurd there (asked v t)
  restored c read other := by
    cases sound read with
    | about v t rest => cases v <;> rfl
    | term rest => exact absurd rfl other

/-- Reading accepts exactly the frames that say a command, whatever follows; each command is read back from the
frame that is written for it, so no two are written alike. -/
theorem commandsReadExactly (f : Frame) (c d : Command) :
    ReadsGrammar f ∧ decode? c.encode = some c ∧ (c.encode = d.encode ↔ c = d) := by
  refine ⟨grammarRead f, encodedCommandRead c, fun same => ?_, fun same => congrArg encode same⟩
  have read := encodedCommandRead c
  rw [same, encodedCommandRead] at read
  exact (Option.some.inj read).symm

example : decode? [termBytes, [1], []] = some .term ∧ decode? [termBytes ++ [0]] = none ∧
    decode? [Verb.subscribe.bytes, Topic.rawTx.label ++ [0]] = none := by
  decide

end NodeFeed.Command
