import Rover.Interpreter
import Rover.Proofs.Words

/-!
# The grammar of instructions

Which words spell which instruction: a keyword of its kind, the case of whose
letters `A` to `Z` does not matter, and its parameters as they are typed.  No
word is a keyword of two kinds, so the kinds are tried in vain but for one, and
their order does not matter.

A line is read by its words alone.  So nothing depends on how many blanks stand
where, and every instruction with a word for its identifier can be given.
-/

namespace Rover

/-! ## Keywords -/

/-- Two words differ at most in the case of the letters `A` to `Z`. -/
def AlikeButCase (first second : List Char) : Prop :=
  first.map Char.toLower = second.map Char.toLower

instance (first second : List Char) : Decidable (AlikeButCase first second) :=
  inferInstanceAs (Decidable (_ = _))

theorem isKeyword_iff {keyword : String} {word : List Char} :
    Text.isKeyword keyword word = true ↔ AlikeButCase keyword.toList word :=
  beq_iff_eq

namespace InstructionKind

/-- A word is one of the keywords of a kind, but for case. -/
def IsAskedBy (kind : InstructionKind) (word : List Char) : Prop :=
  ∃ keyword ∈ kind.keywords, AlikeButCase keyword.toList word

theorem answersTo_iff {kind : InstructionKind} {word : List Char} :
    kind.answersTo word = true ↔ kind.IsAskedBy word := by
  simp only [answersTo, List.any_eq_true, isKeyword_iff, IsAskedBy]

theorem isAskedBy_congr {kind : InstructionKind} {word other : List Char}
    (alike : AlikeButCase word other) : kind.IsAskedBy word ↔ kind.IsAskedBy other := by
  unfold IsAskedBy AlikeButCase at *
  rw [alike]

theorem mem_all (kind : InstructionKind) : kind ∈ all := by
  cases kind <;> decide

theorem name_mem_keywords (kind : InstructionKind) : kind.name ∈ kind.keywords := by
  cases kind <;> decide

theorem isAskedBy_name (kind : InstructionKind) : kind.IsAskedBy kind.name.toList :=
  ⟨kind.name, kind.name_mem_keywords, rfl⟩

theorem keywords_differ : ∀ kind ∈ all, ∀ other ∈ all, ∀ keyword ∈ kind.keywords,
    ∀ further ∈ other.keywords, AlikeButCase keyword.toList further.toList → kind = other := by
  decide +kernel

/-- No word asks for two kinds. -/
theorem eq_of_isAskedBy {kind other : InstructionKind} {word : List Char}
    (asked : kind.IsAskedBy word) (again : other.IsAskedBy word) : kind = other := by
  rcases asked with ⟨keyword, member, alike⟩
  rcases again with ⟨further, among, alikeToo⟩
  exact keywords_differ kind kind.mem_all other other.mem_all keyword member further among
    (alike.trans alikeToo.symm)

end InstructionKind

/-! ## Words and instructions -/

/-- A word names a quarter turn, but for case. -/
def Rotation.IsNamedBy (rotation : Rotation) (word : List Char) : Prop :=
  rotation ≠ .unknown ∧ AlikeButCase rotation.name.toList word

namespace Instruction

/-- The parameters behind the keyword of an instruction, as they are typed. -/
inductive Takes : Instruction → List (List Char) → Prop
  | move : Takes .move []
  | help : Takes .help []
  | quit : Takes .quit []
  | radar : Takes .radar []
  | scanAll : Takes (.scan none) []
  | scan (id : List Char) : Takes (.scan (some (String.ofList id))) [id]
  | drop (id : List Char) : Takes (.drop (String.ofList id)) [id]
  | pick (id : List Char) : Takes (.pick (String.ofList id)) [id]
  | operate (id : List Char) : Takes (.operate (String.ofList id) none) [id]
  | turn {rotation : Rotation} {word : List Char} (named : rotation.IsNamedBy word) :
      Takes (.turn rotation) [word]

/-- Some words spell an instruction: a keyword of its kind and its parameters. -/
inductive IsSpelledBy (instruction : Instruction) : List (List Char) → Prop
  | keyword {word : List Char} {parameters : List (List Char)}
      (asked : instruction.kind.IsAskedBy word) (taken : instruction.Takes parameters) :
      IsSpelledBy instruction (word :: parameters)

end Instruction

namespace Rotation

theorem parse_of_isNamedBy {rotation : Rotation} {word : List Char} (solid : Text.IsWord word)
    (named : rotation.IsNamedBy word) : parse word = rotation := by
  rcases named with ⟨known, alike⟩
  rw [parse, solid.trim_eq]
  cases rotation with
  | left => exact if_pos (isKeyword_iff.mpr alike)
  | right =>
      have notLeft : ¬Text.isKeyword "LEFT" word = true := by
        intro left
        exact absurd ((isKeyword_iff.mp left).trans alike.symm) (by decide)
      rw [if_neg notLeft]
      exact if_pos (isKeyword_iff.mpr alike)
  | unknown => exact absurd rfl known

theorem isNamedBy_parse {word : List Char} (solid : Text.IsWord word)
    (known : parse word ≠ .unknown) : (parse word).IsNamedBy word := by
  refine ⟨known, ?_⟩
  rw [parse, solid.trim_eq] at known ⊢
  split at known
  · rename_i left
    rw [if_pos left]
    exact isKeyword_iff.mp left
  · rename_i notLeft
    rw [if_neg notLeft]
    split at known
    · rename_i right
      rw [if_pos right]
      exact isKeyword_iff.mp right
    · exact absurd rfl known

end Rotation

namespace InstructionKind

variable {kind : InstructionKind} {words : List (List Char)} {instruction : Instruction}

theorem withParameters_turn (word : List Char) :
    withParameters .turn [word] =
      if Rotation.parse word = .unknown then none else some (.turn (Rotation.parse word)) := by
  cases parsed : Rotation.parse word <;> simp [withParameters, parsed]

theorem withParameters_eq_some_iff (solid : ∀ word ∈ words, Text.IsWord word) :
    kind.withParameters words = some instruction ↔
      instruction.kind = kind ∧ instruction.Takes words := by
  constructor
  · intro made
    unfold withParameters at made
    split at made
    case h_10 word =>
      change withParameters .turn [word] = some instruction at made
      rw [withParameters_turn] at made
      split at made
      · cases made
      · rename_i known
        cases made
        have named := Rotation.isNamedBy_parse (solid word List.mem_cons_self) known
        exact ⟨rfl, .turn named⟩
    case h_11 => cases made
    all_goals
      cases made
      exact ⟨rfl, by constructor⟩
  · rintro ⟨rfl, taken⟩
    cases taken
    case turn rotation word named =>
      have parsed := Rotation.parse_of_isNamedBy (solid word List.mem_cons_self) named
      rw [Instruction.kind, withParameters_turn, parsed, if_neg named.1]
    all_goals rfl

theorem ofWords?_eq_some_iff (solid : ∀ word ∈ words, Text.IsWord word) :
    kind.ofWords? words = some instruction ↔
      instruction.kind = kind ∧ instruction.IsSpelledBy words := by
  cases words with
  | nil =>
      constructor
      · exact nofun
      · rintro ⟨_, ⟨⟩⟩
  | cons word parameters =>
      have ⟨_, further⟩ := List.forall_mem_cons.mp solid
      rw [ofWords?]
      constructor
      · intro made
        split at made
        · rename_i asked
          rcases (withParameters_eq_some_iff further).mp made with ⟨rfl, taken⟩
          exact ⟨rfl, .keyword (answersTo_iff.mp asked) taken⟩
        · cases made
      · rintro ⟨rfl, ⟨asked, taken⟩⟩
        rw [if_pos (answersTo_iff.mpr asked)]
        exact (withParameters_eq_some_iff further).mpr ⟨rfl, taken⟩

end InstructionKind

/-! ## Lines read -/

namespace Instruction

/-- Words spell one instruction at most. -/
theorem IsSpelledBy.unique {instruction other : Instruction} {words : List (List Char)}
    (solid : ∀ word ∈ words, Text.IsWord word) (spelled : instruction.IsSpelledBy words)
    (again : other.IsSpelledBy words) : instruction = other := by
  have made := (InstructionKind.ofWords?_eq_some_iff solid).mpr ⟨rfl, spelled⟩
  have sameKind : other.kind = instruction.kind := by
    cases spelled with
    | keyword asked _ =>
        cases again with
        | keyword askedToo _ => exact InstructionKind.eq_of_isAskedBy askedToo asked
  rw [(InstructionKind.ofWords?_eq_some_iff solid).mpr ⟨sameKind, again⟩] at made
  exact (Option.some.inj made).symm

end Instruction

section

variable {kinds : List InstructionKind} {line : String}

theorem isWord_of_mem_line {word : List Char} (member : word ∈ Text.words line.toList) :
    Text.IsWord word :=
  Text.isWord_of_mem_words member

theorem parse_eq_some_iff {kind : InstructionKind} {instruction : Instruction} :
    kind.parse line = some instruction ↔
      instruction.kind = kind ∧ instruction.IsSpelledBy (Text.words line.toList) :=
  InstructionKind.ofWords?_eq_some_iff fun _ => isWord_of_mem_line

/-- A line is read as the instruction that its words spell, if its kind is on the list. -/
theorem interpret_eq_ok_iff {instruction : Instruction} :
    interpret kinds line = .ok instruction ↔
      instruction.kind ∈ kinds ∧ instruction.IsSpelledBy (Text.words line.toList) := by
  unfold interpret
  constructor
  · intro read
    split at read
    · rename_i found
      cases read
      rcases List.exists_of_findSome?_eq_some found with ⟨kind, member, parsed⟩
      rcases parse_eq_some_iff.mp parsed with ⟨rfl, spelled⟩
      exact ⟨member, spelled⟩
    · cases read
  · rintro ⟨member, spelled⟩
    split
    · -- Whichever kind of the list was the first to fit, the same words spell its instruction.
      rename_i other found
      rcases List.exists_of_findSome?_eq_some found with ⟨kind, -, parsed⟩
      have again := (parse_eq_some_iff.mp parsed).2
      rw [again.unique (fun _ => isWord_of_mem_line) spelled]
    · rename_i vain
      have missed := List.findSome?_eq_none_iff.mp vain instruction.kind member
      rw [parse_eq_some_iff.mpr ⟨rfl, spelled⟩] at missed
      cases missed

theorem interpret_eq_error_iff {refusal : Unrecognised} :
    interpret kinds line = .error refusal ↔
      (∀ instruction : Instruction, instruction.IsSpelledBy (Text.words line.toList) →
        instruction.kind ∉ kinds) ∧
      refusal = ⟨String.ofList (Text.trim line.toList), .ofKinds kinds⟩ := by
  constructor
  · intro refused
    constructor
    · intro instruction spelled member
      rw [interpret_eq_ok_iff.mpr ⟨member, spelled⟩] at refused
      cases refused
    · unfold interpret at refused
      split at refused
      · cases refused
      · exact (Except.error.inj refused).symm
  · rintro ⟨unspelled, rfl⟩
    cases read : interpret kinds line with
    | ok instruction =>
        have ⟨member, spelled⟩ := interpret_eq_ok_iff.mp read
        exact absurd member (unspelled instruction spelled)
    | error refusal =>
        unfold interpret at read
        split at read
        · cases read
        · exact read.symm

end

/-! ## The blanks and the case -/

/-- Two rows of words that agree but for the case of the first word. -/
inductive SameCommand : List (List Char) → List (List Char) → Prop
  | none : SameCommand [] []
  | some {word other : List Char} (alike : AlikeButCase word other)
      (parameters : List (List Char)) : SameCommand (word :: parameters) (other :: parameters)

theorem SameCommand.symm {words others : List (List Char)} (same : SameCommand words others) :
    SameCommand others words := by
  cases same with
  | none => exact .none
  | some alike parameters => exact .some (Eq.symm alike) parameters

theorem SameCommand.isSpelledBy {words others : List (List Char)}
    (same : SameCommand words others) {instruction : Instruction}
    (spelled : instruction.IsSpelledBy words) : instruction.IsSpelledBy others := by
  cases same with
  | none => exact spelled
  | some alike parameters =>
      cases spelled with
      | keyword asked taken =>
          exact .keyword ((InstructionKind.isAskedBy_congr alike).mp asked) taken

theorem interpret_congr {kinds : List InstructionKind} {line other : String}
    (same : SameCommand (Text.words line.toList) (Text.words other.toList)) :
    (interpret kinds line).toOption = (interpret kinds other).toOption := by
  cases read : interpret kinds line with
  | ok instruction =>
      have ⟨member, spelled⟩ := interpret_eq_ok_iff.mp read
      rw [interpret_eq_ok_iff.mpr ⟨member, same.isSpelledBy spelled⟩]
  | error refusal =>
      have ⟨unspelled, _⟩ := interpret_eq_error_iff.mp read
      rw [interpret_eq_error_iff.mpr ⟨fun instruction spelled =>
        unspelled instruction (same.symm.isSpelledBy spelled), rfl⟩]
      rfl

/-- Blanks at the ends of a line do not even show in its refusal. -/
theorem interpret_gap_append {kinds : List InstructionKind} {before after : List Char}
    (front : Text.IsGap before) (back : Text.IsGap after) (line : List Char) :
    interpret kinds (String.ofList (before ++ line ++ after)) =
      interpret kinds (String.ofList line) := by
  unfold interpret InstructionKind.parse
  rw [String.toList_ofList, String.toList_ofList, Text.words_gap_append_gap front back,
    Text.trim_gap_append front back]

/-! ## Instructions that can be given -/

namespace InstructionKind

theorem isWord_name (kind : InstructionKind) : Text.IsWord kind.name.toList := by
  cases kind <;> decide

end InstructionKind

namespace Instruction

/-- An instruction without a blank in its identifier, and with a turn that is known. -/
def IsSayable : Instruction → Prop
  | .turn rotation => rotation ≠ .unknown
  | .drop id => Text.IsWord id.toList
  | .pick id => Text.IsWord id.toList
  | .operate id _ => Text.IsWord id.toList
  | .scan (some id) => Text.IsWord id.toList
  | _ => True

theorem Takes.fresh_eq {instruction : Instruction} {parameters : List (List Char)}
    (taken : instruction.Takes parameters) : instruction.fresh = instruction := by
  cases taken <;> rfl

theorem Takes.isSayable {instruction : Instruction} {parameters : List (List Char)}
    (taken : instruction.Takes parameters) (solid : ∀ word ∈ parameters, Text.IsWord word) :
    instruction.IsSayable := by
  cases taken
  case turn named => exact named.1
  case scan id | drop id | pick id | operate id =>
    have isWord : Text.IsWord id := solid id List.mem_cons_self
    change Text.IsWord (String.ofList id).toList
    rwa [String.toList_ofList]
  all_goals trivial

theorem IsSpelledBy.isSayable {instruction : Instruction} {words : List (List Char)}
    (spelled : instruction.IsSpelledBy words) (solid : ∀ word ∈ words, Text.IsWord word) :
    instruction.IsSayable ∧ instruction.fresh = instruction := by
  cases spelled with
  | keyword asked taken =>
      have ⟨_, further⟩ := List.forall_mem_cons.mp solid
      exact ⟨taken.isSayable further, taken.fresh_eq⟩

theorem exists_takes_of_id {make : String → Instruction}
    (takes : ∀ id, (make (String.ofList id)).Takes [id]) {id : String}
    (isWord : Text.IsWord id.toList) :
    ∃ parameters, (∀ word ∈ parameters, Text.IsWord word) ∧ (make id).Takes parameters := by
  have taken := takes id.toList
  rw [String.ofList_toList] at taken
  exact ⟨_, List.forall_mem_singleton.mpr isWord, taken⟩

theorem IsSayable.exists_takes {instruction : Instruction} (sayable : instruction.IsSayable) :
    ∃ parameters, (∀ word ∈ parameters, Text.IsWord word) ∧
      instruction.fresh.Takes parameters := by
  cases instruction with
  | move => exact ⟨[], List.forall_mem_nil _, .move⟩
  | turn rotation =>
      have isWord : Text.IsWord rotation.name.toList := by
        cases rotation <;> decide
      exact ⟨_, List.forall_mem_singleton.mpr isWord, .turn ⟨sayable, rfl⟩⟩
  | pick id => exact exists_takes_of_id Takes.pick sayable
  | drop id => exact exists_takes_of_id Takes.drop sayable
  | operate id used =>
      exact @exists_takes_of_id (fun id => .operate id none) Takes.operate id sayable
  | scan id =>
      cases id with
      | none => exact ⟨[], List.forall_mem_nil _, .scanAll⟩
      | some id => exact @exists_takes_of_id (fun id => .scan (some id)) Takes.scan id sayable
  | radar => exact ⟨[], List.forall_mem_nil _, .radar⟩
  | help => exact ⟨[], List.forall_mem_nil _, .help⟩
  | quit => exact ⟨[], List.forall_mem_nil _, .quit⟩

/-- Every instruction that is sayable is read from some line. -/
theorem IsSayable.exists_line {instruction : Instruction} (sayable : instruction.IsSayable) :
    ∃ line, interpret InstructionKind.all line = .ok instruction.fresh := by
  rcases sayable.exists_takes with ⟨parameters, solid, taken⟩
  let words := instruction.fresh.kind.name.toList :: parameters
  have allSolid : ∀ word ∈ words, Text.IsWord word :=
    List.forall_mem_cons.mpr ⟨InstructionKind.isWord_name _, solid⟩
  refine ⟨String.ofList ([' '].intercalate words), ?_⟩
  rw [interpret_eq_ok_iff, String.toList_ofList, (Text.holds_intercalate allSolid).words_eq]
  exact ⟨InstructionKind.mem_all _, .keyword (InstructionKind.isAskedBy_name _) taken⟩

theorem exists_line_iff {instruction : Instruction} :
    (∃ line, interpret InstructionKind.all line = .ok instruction) ↔
      instruction.IsSayable ∧ instruction.fresh = instruction := by
  constructor
  · rintro ⟨line, read⟩
    have ⟨_, spelled⟩ := interpret_eq_ok_iff.mp read
    exact spelled.isSayable fun _ => isWord_of_mem_line
  · rintro ⟨sayable, fresh⟩
    have found := sayable.exists_line
    rwa [fresh] at found

end Instruction

/-! ## The grammar -/

/--
A line is refused without the blanks at its ends, and with a line of help on
each of the nine kinds.
-/
structure IsRefusalOf (line : String) (refusal : Unrecognised) : Prop where
  trimmed : ∃ before after, Text.IsGap before ∧ Text.IsGap after ∧
    line.toList = before ++ refusal.line.toList ++ after
  bare : refusal.line.toList = [] ∨ Text.IsTrim refusal.line.toList
  help : refusal.help = .full
  nine : refusal.help.lines.length = 9

/-- A line has one refusal. -/
theorem isRefusalOf_iff {line : String} {refusal : Unrecognised} :
    IsRefusalOf line refusal ↔ refusal = ⟨String.ofList (Text.trim line.toList), .full⟩ := by
  constructor
  · rintro ⟨⟨before, after, front, back, cut⟩, bare, help, -⟩
    rcases refusal with ⟨said, text⟩
    rw [cut, Text.trim_eq_of_gaps front back bare, String.ofList_toList, ← help]
  · rintro rfl
    rcases Text.exists_gaps_trim line.toList with ⟨before, after, front, back, cut, bare⟩
    refine ⟨⟨before, after, front, back, ?_⟩, ?_, rfl, rfl⟩
    · rw [String.toList_ofList]
      exact cut
    · rw [String.toList_ofList]
      exact bare

/-- The words of a line spell the one instruction that is read, or none if the line is refused. -/
theorem reads_or_refuses (line : String) :
    (∃ instruction : Instruction,
      (∀ other : Instruction,
        other.IsSpelledBy (Text.words line.toList) ↔ other = instruction) ∧
        interpret InstructionKind.all line = .ok instruction) ∨
    (∀ instruction : Instruction, ¬instruction.IsSpelledBy (Text.words line.toList)) ∧
      ∃ refusal, (∀ other, IsRefusalOf line other ↔ other = refusal) ∧
        interpret InstructionKind.all line = .error refusal := by
  cases read : interpret InstructionKind.all line with
  | ok instruction =>
      have ⟨_, spelled⟩ := interpret_eq_ok_iff.mp read
      refine .inl ⟨instruction, fun other => ⟨fun again => ?_, fun same => ?_⟩, rfl⟩
      · exact again.unique (fun _ => isWord_of_mem_line) spelled
      · exact same ▸ spelled
  | error refusal =>
      have ⟨unspelled, said⟩ := interpret_eq_error_iff.mp read
      refine .inr ⟨fun instruction spelled => ?_, refusal, fun other => ?_, rfl⟩
      · exact unspelled instruction spelled (InstructionKind.mem_all _)
      · rw [said]
        exact isRefusalOf_iff

/--
The interpreter knows the grammar and nothing else.  A line holds one row of
words.  It is read as the one instruction that these spell, and refused if they
spell none.  The instructions that are read from some line are the sayable ones
that remember nothing.  An instruction that is read does not depend on how many
blanks stand where, nor on the case of the first word; and blanks at the ends of
a line do not even show in its refusal.
-/
theorem lines_are_read_by_their_words :
    (∀ line : String, ∃ words, (∀ others, Text.Holds line.toList others ↔ others = words) ∧
      ((∃ instruction : Instruction,
          (∀ other : Instruction, other.IsSpelledBy words ↔ other = instruction) ∧
            interpret InstructionKind.all line = .ok instruction) ∨
        (∀ instruction : Instruction, ¬instruction.IsSpelledBy words) ∧
          ∃ refusal, (∀ other, IsRefusalOf line other ↔ other = refusal) ∧
            interpret InstructionKind.all line = .error refusal)) ∧
    (∀ instruction : Instruction,
      (∃ line, interpret InstructionKind.all line = .ok instruction) ↔
        instruction.IsSayable ∧ instruction.fresh = instruction) ∧
    (∀ line other : String, ∀ words others, Text.Holds line.toList words →
      Text.Holds other.toList others → SameCommand words others →
        (interpret InstructionKind.all line).toOption =
          (interpret InstructionKind.all other).toOption) ∧
    ∀ before line after, Text.IsGap before → Text.IsGap after →
      interpret InstructionKind.all (String.ofList (before ++ line ++ after)) =
        interpret InstructionKind.all (String.ofList line) := by
  refine ⟨fun line => ?_, fun instruction => Instruction.exists_line_iff, ?_, ?_⟩
  · refine ⟨Text.words line.toList, fun others => ?_, reads_or_refuses line⟩
    rw [Text.holds_iff, eq_comm]
  · intro line other words others holds holdsToo same
    apply interpret_congr
    rwa [holds.words_eq, holdsToo.words_eq]
  · intro before line after front back
    exact interpret_gap_append front back line

/-- A line with other blanks and other letters makes the same instruction as the plain one. -/
theorem coger_is_read_like_pick :
    SameCommand ["COGER".toList, "Ünit".toList] ["coger".toList, "Ünit".toList] ∧
      Text.IsGap ['\t', '\u2003'] ∧
      (interpret InstructionKind.all "COGER\u00a0\n Ünit").toOption = some (.pick "Ünit") ∧
      interpret InstructionKind.all (String.ofList (['\t', '\u2003'] ++ "fly  off".toList ++ [])) =
        interpret InstructionKind.all (String.ofList "fly  off".toList) := by
  have same : SameCommand ["COGER".toList, "Ünit".toList] ["coger".toList, "Ünit".toList] :=
    .some (by decide) _
  have loud : Text.Holds "COGER\u00a0\n Ünit".toList ["COGER".toList, "Ünit".toList] :=
    Text.holds_iff.mpr (by decide +kernel)
  have plain : Text.Holds "coger Ünit".toList ["coger".toList, "Ünit".toList] :=
    Text.holds_iff.mpr (by decide +kernel)
  have front : Text.IsGap ['\t', '\u2003'] := by decide
  rcases lines_are_read_by_their_words with ⟨-, -, alike, ends⟩
  refine ⟨same, front, ?_, ends _ _ [] front Text.isGap_nil⟩
  rw [alike _ _ _ _ loud plain same]
  decide +kernel

end Rover
