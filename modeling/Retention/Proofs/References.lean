import Mathlib.Data.List.TakeWhile
import Mathlib.Tactic.Push
import Mathlib.Tactic.SplitIfs
import Retention.Settings.Expansion

/-!
# References in a text

A settings text is read from the left: outside of comments a reference is taken as a whole where one
is written, and any other character is kept. Each text has exactly one such reading
(`existsUnique_reading`), and to expand the text is to go through its pieces
(`expandChars_eq_fill`), so the reading tells which names are looked up, and in which order
(`expand_by_reading`).

The proofs go by induction on the pieces; of what was read before, only whether it leaves a comment
open matters.
-/

namespace Retention.Settings

/-! ### Readings -/

/-- What a text consists of. -/
inductive Piece
  | kept (c : Char)
  | reference (name : String)
deriving DecidableEq

/-- One or more characters other than the closing brace, on one line. -/
structure IsName (name : String) : Prop where
  nonempty : name ≠ ""
  unclosed : '\x7d' ∉ name.toList
  line : '\n' ∉ name.toList

def written (name : String) : List Char := '$' :: '\x7b' :: (name.toList ++ ['\x7d'])

/-- A `#` was passed on this line. -/
def Commented (past : List Char) : Prop :=
  ∃ earlier line, past = earlier ++ '#' :: line ∧ '\n' ∉ line

namespace Piece

def source : Piece → List Char
  | kept c => [c]
  | reference name => written name

def name? : Piece → Option String
  | kept _ => none
  | reference name => some name

/-- What the piece stands for, if each name has a value. -/
def value (env : Environment) : Piece → List Char
  | kept c => [c]
  | reference name => ((env name).getD "").toList

/-- A reference stands outside of comments, and no character is kept where one starts. -/
def Fits (past after : List Char) : Piece → Prop
  | kept c => Commented past ∨ ∀ name rest, IsName name → c :: after ≠ written name ++ rest
  | reference name => ¬ Commented past ∧ IsName name

end Piece

def sources (pieces : List Piece) : List Char := pieces.flatMap Piece.source

/-- Each piece fits where it stands. -/
def Faithful (past : List Char) (pieces : List Piece) : Prop :=
  ∀ before piece after, pieces = before ++ piece :: after →
    piece.Fits (past ++ sources before) (sources after)

structure Reading (text : List Char) (pieces : List Piece) : Prop where
  sources_eq : sources pieces = text
  faithful : Faithful [] pieces

section Comments

variable {past cs : List Char}

theorem commented_append (line : '\n' ∉ cs) :
    Commented (past ++ cs) ↔ Commented past ∨ '#' ∈ cs := by
  constructor
  · rintro ⟨earlier, rest, split, hrest⟩
    rcases List.append_eq_append_iff.1 split with ⟨more, -, rfl⟩ | ⟨more, rfl, same⟩
    · exact .inr (by simp)
    · cases more with
      | nil =>
        obtain rfl : '#' :: rest = cs := same
        exact .inr List.mem_cons_self
      | cons c more =>
        obtain ⟨rfl, rfl⟩ := List.cons.inj same
        exact .inl ⟨earlier, more, rfl, fun h => hrest (List.mem_append_left _ h)⟩
  · rintro (⟨earlier, rest, rfl, hrest⟩ | there)
    · exact ⟨earlier, rest ++ cs, by simp, fun h => (List.mem_append.1 h).elim hrest line⟩
    · obtain ⟨before, after, rfl⟩ := List.append_of_mem there
      exact ⟨past ++ before, after, by simp, fun h => line (by simp [h])⟩

/-- A line end closes a comment. -/
theorem commented_line : Commented (past ++ '\n' :: cs) ↔ Commented cs := by
  constructor
  · rintro ⟨earlier, rest, split, hrest⟩
    rcases List.append_eq_append_iff.1 split with ⟨more, -, same⟩ | ⟨more, -, same⟩
    · cases more with
      | nil => cases same
      | cons c more =>
        obtain ⟨-, rfl⟩ := List.cons.inj same
        exact ⟨more, rest, rfl, hrest⟩
    · cases more with
      | nil => cases same
      | cons c more =>
        obtain ⟨-, rfl⟩ := List.cons.inj same
        exact absurd (by simp) hrest
  · rintro ⟨earlier, rest, rfl, hrest⟩
    exact ⟨past ++ '\n' :: earlier, rest, by simp, hrest⟩

theorem not_commented_nil : ¬ Commented [] := by
  rintro ⟨earlier, rest, split, -⟩
  simp at split

end Comments

section Names

variable {name name' : String} {rest rest' : List Char}

theorem IsName.line_written (h : IsName name) : '\n' ∉ written name := by
  simp [written, h.line]

theorem IsName.takeWhile_closed (h : IsName name) :
    (name.toList ++ '\x7d' :: rest).takeWhile (fun c => c != '\x7d' && c != '\n') =
      name.toList := by
  have inside : ∀ c ∈ name.toList, (c != '\x7d' && c != '\n') = true := fun c hc => by
    have unclosed : c ≠ '\x7d' := fun same => h.unclosed (same ▸ hc)
    have line : c ≠ '\n' := fun same => h.line (same ▸ hc)
    simp [unclosed, line]
  rw [List.takeWhile_append_of_pos inside]
  simp

/-- A reference is found behind a dollar sign exactly if a name in braces follows. The name ends
before the first closing brace, so there is only one. -/
theorem reference?_eq_some_iff {cs : List Char} :
    reference? cs = some name.toList ↔ IsName name ∧ ∃ rest, '$' :: cs = written name ++ rest := by
  constructor
  · intro found
    unfold reference? at found
    split at found
    · rename_i cs
      simp only [Option.ite_none_left_eq_some, Option.some.injEq] at found
      obtain ⟨closed, same⟩ := found
      rw [same] at closed
      simp only [Bool.or_eq_true, not_or, bne_iff_ne, ne_eq, Classical.not_not] at closed
      obtain ⟨nonempty, closed⟩ := closed
      obtain ⟨rest, left⟩ := List.head?_eq_some_iff.1 closed
      have inside : ∀ c ∈ name.toList, c ≠ '\x7d' ∧ c ≠ '\n' := fun c hc => by
        have := List.mem_takeWhile_imp (same ▸ hc)
        simpa only [Bool.and_eq_true, bne_iff_ne] using this
      have taken : name.toList <+: cs := same ▸ List.takeWhile_prefix _
      refine ⟨⟨?_, fun h => (inside _ h).1 rfl, fun h => (inside _ h).2 rfl⟩, rest, ?_⟩
      · rintro rfl
        exact nonempty rfl
      · rw [← List.prefix_iff_eq_append.1 taken, left]
        simp [written]
    · cases found
  · rintro ⟨isName, rest, same⟩
    obtain rfl : cs = '\x7b' :: (name.toList ++ '\x7d' :: rest) := by simpa [written] using same
    have nonempty : name.toList ≠ [] := fun h => isName.nonempty (String.toList_eq_nil_iff.1 h)
    simp [reference?, isName.takeWhile_closed, nonempty]

theorem written_append_inj (h : IsName name) (h' : IsName name')
    (same : written name ++ rest = written name' ++ rest') : name = name' ∧ rest = rest' := by
  have found := reference?_eq_some_iff.2 ⟨h, rest, rfl⟩
  have found' := reference?_eq_some_iff.2 ⟨h', rest', same⟩
  have same_name : name = name' := String.toList_inj.1 (Option.some.inj (found.symm.trans found'))
  subst same_name
  exact ⟨rfl, List.append_cancel_left same⟩

end Names

/-! ### One reading for each text -/

section Faithful

variable {past past' : List Char} {piece : Piece} {pieces pieces' : List Piece}

@[simp] theorem sources_cons : sources (piece :: pieces) = piece.source ++ sources pieces := rfl

@[simp] theorem sources_append : sources (pieces ++ pieces') = sources pieces ++ sources pieces' :=
  List.flatMap_append

theorem faithful_nil : Faithful past [] := fun before piece after h => by simp at h

theorem faithful_cons : Faithful past (piece :: pieces) ↔
    piece.Fits past (sources pieces) ∧ Faithful (past ++ piece.source) pieces := by
  constructor
  · intro h
    refine ⟨?_, fun before other after same => ?_⟩
    · have := h [] piece pieces rfl
      rwa [sources, List.flatMap_nil, List.append_nil] at this
    · have := h (piece :: before) other after (by rw [same, List.cons_append])
      rwa [sources_cons, ← List.append_assoc] at this
  · rintro ⟨fits, later⟩ before other after same
    cases before with
    | nil =>
      obtain ⟨rfl, rfl⟩ := List.cons.inj same
      rwa [sources, List.flatMap_nil, List.append_nil]
    | cons first before =>
      obtain ⟨rfl, rfl⟩ := List.cons.inj same
      rw [sources_cons, ← List.append_assoc]
      exact later before other after rfl

/-- What is read next depends on what was read before by the comment it leaves open. -/
theorem Faithful.mono (h : Faithful past pieces)
    (same : ∀ cs, Commented (past' ++ cs) ↔ Commented (past ++ cs)) : Faithful past' pieces := by
  intro before piece after split
  have fits := h before piece after split
  cases piece with
  | kept => exact fits.imp (same _).2 id
  | reference => exact ⟨(same _).not.2 fits.1, fits.2⟩

theorem exists_faithful : ∀ (text past : List Char),
    ∃ pieces, sources pieces = text ∧ Faithful past pieces
  | [], past => ⟨[], rfl, faithful_nil⟩
  | c :: rest, past => by
    by_cases plain : Commented past ∨ ∀ name after, IsName name → c :: rest ≠ written name ++ after
    · obtain ⟨pieces, rfl, h⟩ := exists_faithful rest (past ++ [c])
      exact ⟨.kept c :: pieces, rfl, faithful_cons.2 ⟨plain, h⟩⟩
    · push Not at plain
      obtain ⟨outside, name, after, isName, same⟩ := plain
      have shorter : after.length ≤ rest.length := by
        have lengths := congrArg List.length same
        simp only [written, List.length_cons, List.length_append] at lengths
        omega
      obtain ⟨pieces, rfl, h⟩ := exists_faithful after (past ++ written name)
      exact ⟨.reference name :: pieces, same.symm, faithful_cons.2 ⟨⟨outside, isName⟩, h⟩⟩
termination_by text => text.length

theorem Faithful.unique : ∀ {pieces pieces' : List Piece} {past : List Char},
    Faithful past pieces → Faithful past pieces' → sources pieces = sources pieces' →
      pieces = pieces'
  | [], [], _, _, _, _ => rfl
  | [], piece :: _, _, _, _, same => by cases piece <;> cases same
  | piece :: _, [], _, _, _, same => by cases piece <;> cases same
  | .kept c :: pieces, .kept c' :: pieces', past, h, h', same => by
    obtain ⟨rfl, others⟩ := List.cons.inj same
    rw [(faithful_cons.1 h).2.unique (faithful_cons.1 h').2 others]
  | .kept c :: pieces, .reference name :: pieces', past, h, h', same => by
    obtain ⟨outside, isName⟩ := (faithful_cons.1 h').1
    exact absurd same ((faithful_cons.1 h).1.resolve_left outside name _ isName)
  | .reference name :: pieces, .kept c :: pieces', past, h, h', same => by
    obtain ⟨outside, isName⟩ := (faithful_cons.1 h).1
    exact absurd same.symm ((faithful_cons.1 h').1.resolve_left outside name _ isName)
  | .reference name :: pieces, .reference name' :: pieces', past, h, h', same => by
    obtain ⟨rfl, others⟩ :=
      written_append_inj (faithful_cons.1 h).1.2 (faithful_cons.1 h').1.2 same
    rw [(faithful_cons.1 h).2.unique (faithful_cons.1 h').2 others]

theorem existsUnique_reading (text : List Char) : ∃! pieces, Reading text pieces := by
  obtain ⟨pieces, same, h⟩ := exists_faithful text []
  refine ⟨pieces, ⟨same, h⟩, fun pieces' h' => ?_⟩
  exact h'.faithful.unique h (h'.sources_eq.trans same.symm)

end Faithful

/-! ### Filling in -/

/-- What the pieces come to; of a line end with a carriage return only the newline is kept. -/
def fill (env : Environment) : List Piece → Except String (List Char)
  | [] => .ok []
  | .kept c :: rest =>
    if c = '\r' ∧ rest.head? = some (.kept '\n') then fill env rest
    else (c :: ·) <$> fill env rest
  | .reference name :: rest =>
    match env name with
    | none => .error name
    | some value => (value.toList ++ ·) <$> fill env rest

section Fill

variable {env : Environment} {past : List Char} {pieces : List Piece}

theorem expandChars_skip (taken rest : List Char) (comment : Bool) :
    expandChars env taken.length comment (taken ++ rest) =
      expandChars env 0 (comment || taken.contains '#') rest := by
  induction taken generalizing comment with
  | nil => simp
  | cons c taken ih =>
    rw [List.length_cons, List.cons_append, expandChars, ih, List.contains_cons, Bool.or_assoc]
    rw [Bool.beq_comm]

theorem expandChars_newline (comment : Bool) (rest : List Char) :
    expandChars env 0 comment ('\n' :: rest) = ('\n' :: ·) <$> expandChars env 0 false rest := by
  rw [expandChars, if_pos rfl]

theorem expandChars_return (comment : Bool) {rest : List Char} (next : rest.head? = some '\n') :
    expandChars env 0 comment ('\r' :: rest) = expandChars env 0 comment rest := by
  rw [expandChars, if_neg (by decide), if_pos ⟨rfl, next⟩]

theorem expandChars_kept {comment : Bool} {c : Char} {rest : List Char} (newline : c ≠ '\n')
    (alone : ¬ (c = '\r' ∧ rest.head? = some '\n'))
    (plain : comment = true ∨ ∀ name after, IsName name → c :: rest ≠ written name ++ after) :
    expandChars env 0 comment (c :: rest) =
      (c :: ·) <$> expandChars env 0 (comment || c == '#') rest := by
  have none_starts : (if c = '$' ∧ !comment then reference? rest else none) = none := by
    split_ifs with starts
    · refine Option.eq_none_iff_forall_ne_some.2 fun name found => ?_
      have found : reference? rest = some (String.ofList name).toList := by
        rw [found, String.toList_ofList]
      obtain ⟨isName, after, same⟩ := reference?_eq_some_iff.1 found
      obtain ⟨rfl, outside⟩ := starts
      refine plain.elim (fun inside => ?_) fun plain => plain _ _ isName same
      rw [inside] at outside
      cases outside
    · rfl
  rw [expandChars, if_neg newline, if_neg alone, none_starts]

theorem expandChars_reference {name : String} (isName : IsName name) (rest : List Char) :
    expandChars env 0 false (written name ++ rest) =
      match env name with
      | none => .error name
      | some value =>
        (value.toList ++ ·) <$> expandChars env 0 (name.toList.contains '#') rest := by
  let brace : List Char := '\x7b' :: (name.toList ++ ['\x7d'])
  have found : reference? (brace ++ rest) = some name.toList :=
    reference?_eq_some_iff.2 ⟨isName, rest, rfl⟩
  have length : name.toList.length + 2 = brace.length := by simp [brace]
  change expandChars env 0 false ('$' :: (brace ++ rest)) = _
  have hash : (false || brace.contains '#') = name.toList.contains '#' := by simp [brace]
  rw [expandChars, if_neg (by decide), if_neg (by simp), if_pos ⟨rfl, rfl⟩, found]
  rcases looked_up : env name with _ | value
  · simp only [String.ofList_toList, looked_up]
  · simp only [String.ofList_toList, looked_up, length, expandChars_skip, hash]

theorem head?_sources : (sources pieces).head? = some '\n' ↔ pieces.head? = some (.kept '\n') := by
  match pieces with
  | [] => simp [sources]
  | .kept c :: rest => simp [Piece.source]
  | .reference name :: rest => simp [Piece.source, written]

/-- The expansion fills the pieces that a text is faithfully read as. It carries a flag where
reading looks at all that came before (`past`): the flag is set while a comment is open there. -/
theorem expandChars_eq_fill : ∀ {pieces : List Piece} {past : List Char} {comment : Bool},
    Faithful past pieces → (comment = true ↔ Commented past) →
      expandChars env 0 comment (sources pieces) = fill env pieces
  | [], _, _, _, _ => by simp [sources, expandChars, fill]
  | .kept c :: rest, past, comment, h, inside => by
    obtain ⟨plain, later⟩ := faithful_cons.1 h
    change expandChars env 0 comment (c :: sources rest) = _
    rw [fill]
    by_cases newline : c = '\n'
    · subst newline
      have outside : false = true ↔ Commented (past ++ ['\n']) :=
        ⟨nofun, fun open_line => absurd (commented_line.1 open_line) not_commented_nil⟩
      rw [expandChars_newline, expandChars_eq_fill later outside, if_neg (by simp)]
    have still : (comment || c == '#') = true ↔ Commented (past ++ [c]) := by
      rw [commented_append (by simpa using Ne.symm newline), ← inside, List.mem_singleton,
        Bool.or_eq_true, beq_iff_eq, eq_comm (a := c)]
    by_cases alone : c = '\r' ∧ rest.head? = some (.kept '\n')
    · obtain ⟨rfl, next⟩ := alone
      have same : (comment || '\r' == '#') = comment := Bool.or_false comment
      rw [expandChars_return comment (head?_sources.2 next), if_pos ⟨rfl, next⟩,
        ← expandChars_eq_fill later still, same]
    · have alone' : ¬ (c = '\r' ∧ (sources rest).head? = some '\n') := by rwa [head?_sources]
      rw [expandChars_kept newline alone' (plain.imp_left inside.2), if_neg alone,
        expandChars_eq_fill later still]
  | .reference name :: rest, past, comment, h, inside => by
    obtain ⟨⟨outside, isName⟩, later⟩ := faithful_cons.1 h
    have still : name.toList.contains '#' = true ↔ Commented (past ++ written name) := by
      rw [commented_append isName.line_written]
      simp [written, outside]
    obtain rfl : comment = false := by simpa using inside.not.2 outside
    change expandChars env 0 false (written name ++ sources rest) = _
    rw [expandChars_reference isName, expandChars_eq_fill later still, fill]

/-- The names that are looked up. -/
def names (pieces : List Piece) : List String := pieces.filterMap Piece.name?

/-- The first name without a value. -/
def firstUnset? (env : Environment) (pieces : List Piece) : Option String :=
  (names pieces).find? fun name => (env name).isNone

/-- The list without the returns that stand right before a line end. -/
def withoutReturns {α : Type} [DecidableEq α] (cr lf : α) : List α → List α
  | [] => []
  | a :: rest =>
    if a = cr ∧ rest.head? = some lf then withoutReturns cr lf rest
    else a :: withoutReturns cr lf rest

def filled (env : Environment) (pieces : List Piece) : List Char :=
  (withoutReturns (.kept '\r') (.kept '\n') pieces).flatMap (Piece.value env)

theorem filled_kept (c : Char) (rest : List Piece) : filled env (.kept c :: rest) =
    if c = '\r' ∧ rest.head? = some (.kept '\n') then filled env rest
    else c :: filled env rest := by
  simp only [filled, withoutReturns, Piece.kept.injEq]
  split_ifs <;> rfl

theorem filled_reference (name : String) (rest : List Piece) :
    filled env (.reference name :: rest) = ((env name).getD "").toList ++ filled env rest := by
  rw [filled, withoutReturns, if_neg (by simp)]
  rfl

theorem fill_eq : ∀ pieces : List Piece, fill env pieces =
    match firstUnset? env pieces with
    | some name => .error name
    | none => .ok (filled env pieces)
  | [] => rfl
  | .kept c :: rest => by
    have same : firstUnset? env (.kept c :: rest) = firstUnset? env rest := rfl
    rw [fill, fill_eq rest, same, filled_kept]
    split_ifs
    · rfl
    · cases firstUnset? env rest <;> rfl
  | .reference name :: rest => by
    rw [fill, fill_eq rest, filled_reference]
    rcases found : env name with _ | value
    · simp [firstUnset?, names, Piece.name?, found]
    · have same : firstUnset? env (.reference name :: rest) = firstUnset? env rest := by
        simp [firstUnset?, names, Piece.name?, found]
      rw [same]
      cases firstUnset? env rest <;> rfl

theorem firstUnset?_eq_none_iff :
    firstUnset? env pieces = none ↔ ∀ name ∈ names pieces, env name ≠ none := by
  simp [firstUnset?, Option.isNone_iff_eq_none]

theorem withoutReturns_line {c : Char} (h : c ≠ '\n') (h' : c ≠ '\r') (rest : List Char) :
    ∀ {line : List Char}, '\n' ∉ line →
      withoutReturns '\r' '\n' (line ++ c :: rest) = line ++ c :: withoutReturns '\r' '\n' rest
  | [], _ => by
    rw [List.nil_append, withoutReturns, if_neg fun both => h' both.1]
    rfl
  | d :: line, inner => by
    obtain ⟨-, inner⟩ := not_or.1 (List.mem_cons.not.1 inner)
    have next : (line ++ c :: rest).head? ≠ some '\n' := by
      cases line with
      | nil => simpa using h
      | cons e line =>
        intro same
        cases same
        exact inner List.mem_cons_self
    rw [List.cons_append, withoutReturns, if_neg fun both => next both.2,
      withoutReturns_line h h' rest inner]
    rfl

theorem sources_withoutReturns : ∀ {pieces : List Piece} {past : List Char},
    Faithful past pieces → sources (withoutReturns (.kept '\r') (.kept '\n') pieces) =
      withoutReturns '\r' '\n' (sources pieces)
  | [], _, _ => rfl
  | .kept c :: rest, past, h => by
    have ih := sources_withoutReturns (faithful_cons.1 h).2
    change _ = withoutReturns '\r' '\n' (c :: sources rest)
    simp only [withoutReturns, Piece.kept.injEq, head?_sources]
    split_ifs
    · exact ih
    · rw [sources_cons, ih]
      rfl
  | .reference name :: rest, past, h => by
    obtain ⟨⟨-, isName⟩, later⟩ := faithful_cons.1 h
    have split : sources (.reference name :: rest) =
        ('$' :: '\x7b' :: name.toList) ++ '\x7d' :: sources rest := by
      simp [Piece.source, written]
    have line : '\n' ∉ '$' :: '\x7b' :: name.toList := by simp [isName.line]
    rw [split, withoutReturns_line (by decide) (by decide) _ line, withoutReturns,
      if_neg (by simp), sources_cons, sources_withoutReturns later]
    simp [Piece.source, written]

/-- With each name as the value of the reference to it, the pieces come to what they were read
from, but for line ends. -/
theorem filled_of_self (h : Faithful past pieces)
    (self : ∀ name, env name = some ("$\x7b" ++ name ++ "\x7d")) :
    filled env pieces = withoutReturns '\r' '\n' (sources pieces) := by
  have value : Piece.value env = Piece.source := by
    funext piece
    cases piece with
    | kept => rfl
    | reference name => simp [Piece.value, self, Piece.source, written]
  rw [filled, value]
  exact sources_withoutReturns h

end Fill

/-! ### Lines -/

section Lines

variable {env : Environment} {past : List Char} {pieces pieces' : List Piece}

/-- What is written lies on one line, so further lines do not make a reference of it. -/
theorem Piece.Fits.line {piece : Piece} {after : List Char} (h : piece.Fits past after)
    (more : List Char) : piece.Fits past (after ++ '\n' :: more) := by
  cases piece with
  | reference => exact h
  | kept c =>
    refine h.imp_right fun plain name rest isName same => ?_
    rw [← List.cons_append] at same
    rcases List.append_eq_append_iff.1 same with ⟨beyond, split, ends⟩ | ⟨beyond, split, -⟩
    · cases beyond with
      | nil => exact plain name [] isName (by rw [split, List.append_nil, List.append_nil])
      | cons d beyond =>
        obtain ⟨rfl, -⟩ := List.cons.inj ends
        exact isName.line_written (by simp [split])
    · exact plain name beyond isName split

theorem Faithful.append_line : ∀ {pieces : List Piece} {past : List Char}, Faithful past pieces →
    Faithful [] pieces' → Faithful past (pieces ++ .kept '\n' :: pieces')
  | [], past, _, h' => by
    refine faithful_cons.2 ⟨.inr fun name rest _ => by simp [written], h'.mono fun cs => ?_⟩
    rw [List.append_assoc]
    exact commented_line
  | piece :: rest, past, h, h' => by
    obtain ⟨fits, later⟩ := faithful_cons.1 h
    have longer := fits.line (sources pieces')
    exact faithful_cons.2 ⟨sources_append ▸ longer, later.append_line h'⟩

theorem withoutReturns_cons_cons {α : Type} [DecidableEq α] (cr lf a b : α) (rest : List α) :
    withoutReturns cr lf (a :: b :: rest) =
      if a = cr ∧ b = lf then withoutReturns cr lf (b :: rest)
      else a :: withoutReturns cr lf (b :: rest) := by
  rw [withoutReturns.eq_def cr lf (a :: b :: rest)]
  simp only [List.head?_cons, Option.some.injEq]

theorem withoutReturns_append {α : Type} [DecidableEq α] {cr lf : α} (apart : lf ≠ cr)
    (rest : List α) : ∀ {line : List α}, line.getLast? ≠ some cr →
      withoutReturns cr lf (line ++ lf :: rest) =
        withoutReturns cr lf line ++ lf :: withoutReturns cr lf rest
  | [], _ => by simp [withoutReturns, apart]
  | [a], last => by
    have other : a ≠ cr := fun h => last (by rw [h]; rfl)
    simp [withoutReturns, other, apart]
  | a :: b :: line, last => by
    have later : withoutReturns cr lf (b :: (line ++ lf :: rest)) =
        withoutReturns cr lf (b :: line) ++ lf :: withoutReturns cr lf rest :=
      withoutReturns_append apart rest (by simpa using last)
    rw [List.cons_append, List.cons_append, withoutReturns_cons_cons, withoutReturns_cons_cons,
      later]
    split_ifs <;> rfl

theorem fill_append_line (pieces' : List Piece) (last : pieces.getLast? ≠ some (.kept '\r')) :
    fill env (pieces ++ .kept '\n' :: pieces') = (do
      let first ← fill env pieces
      let second ← fill env pieces'
      return first ++ '\n' :: second) := by
  have unset : firstUnset? env (pieces ++ .kept '\n' :: pieces') =
      (firstUnset? env pieces).or (firstUnset? env pieces') := by
    simp [firstUnset?, names, Piece.name?]
  have joined : filled env (pieces ++ .kept '\n' :: pieces') =
      filled env pieces ++ '\n' :: filled env pieces' := by
    rw [filled, withoutReturns_append (by simp) _ last, List.flatMap_append]
    rfl
  simp only [fill_eq, unset, joined]
  cases firstUnset? env pieces <;> cases firstUnset? env pieces' <;> rfl

theorem getLast?_sources (h : pieces.getLast? = some (.kept '\r')) :
    (sources pieces).getLast? = some '\r' := by
  obtain ⟨init, rfl⟩ := List.getLast?_eq_some_iff.1 h
  simp [Piece.source, sources]

end Lines

namespace Reading

variable {env : Environment} {text : String} {pieces : List Piece} (h : Reading text.toList pieces)
include h

theorem expand_eq : expand env text = String.ofList <$> fill env pieces := by
  rw [expand, ← h.sources_eq, expandChars_eq_fill h.faithful]
  exact ⟨nofun, fun inside => absurd inside not_commented_nil⟩

theorem expand_eq_error_iff {name : String} :
    expand env text = .error name ↔ firstUnset? env pieces = some name := by
  rw [h.expand_eq, fill_eq]
  cases firstUnset? env pieces <;> simp [Functor.map, Except.map]

theorem expand_eq_ok_iff {out : String} :
    expand env text = .ok out ↔
      (∀ name ∈ names pieces, env name ≠ none) ∧ out.toList = filled env pieces := by
  have same (cs : List Char) : String.ofList cs = out ↔ out.toList = cs :=
    ⟨fun h => by rw [← h, String.toList_ofList], fun h => by rw [← h, String.ofList_toList]⟩
  rw [h.expand_eq, fill_eq, ← firstUnset?_eq_none_iff]
  cases firstUnset? env pieces <;> simp [Functor.map, Except.map, same]

theorem fails_iff :
    (∃ name, expand env text = .error name) ↔ ∃ name ∈ names pieces, env name = none := by
  simp only [h.expand_eq_error_iff]
  rw [← Option.isSome_iff_exists, Option.isSome_iff_ne_none, ne_eq, firstUnset?_eq_none_iff]
  push Not
  rfl

end Reading

/-- Each text has one reading. It is expanded unless one of the names in it has no value, and then
the first of these is told; if it is, then each reference has become the value of its name, whatever
is in that, and of the other characters those stay that are not a return before a line end. So with
each name as the value of the reference to it only such returns go. And lines are expanded one by
one, unless they are parted between a return and a line end. -/
theorem expand_by_reading (env : Environment) :
    (∀ text : String, ∃! pieces, Reading text.toList pieces) ∧
    (∀ (text : String) (pieces : List Piece), Reading text.toList pieces →
      ((∃ name, expand env text = .error name) ↔ ∃ name ∈ names pieces, env name = none) ∧
      (∀ name, expand env text = .error name ↔ firstUnset? env pieces = some name) ∧
      ∀ out, expand env text = .ok out ↔
        (∀ name ∈ names pieces, env name ≠ none) ∧ out.toList = filled env pieces) ∧
    ((∀ name, env name = some ("$\x7b" ++ name ++ "\x7d")) → ∀ text : String,
      expand env text = .ok (.ofList (withoutReturns '\r' '\n' text.toList))) ∧
    ∀ a b : String, a.toList.getLast? ≠ some '\r' → expand env (a ++ "\n" ++ b) = (do
      let first ← expand env a
      let second ← expand env b
      return first ++ "\n" ++ second) := by
  refine ⟨fun text => existsUnique_reading _, fun text pieces reading => ?_, fun self text => ?_,
    fun a b last => ?_⟩
  · exact ⟨reading.fails_iff, fun name => reading.expand_eq_error_iff,
      fun out => reading.expand_eq_ok_iff⟩
  · obtain ⟨pieces, reading, -⟩ := existsUnique_reading text.toList
    refine reading.expand_eq_ok_iff.2 ⟨fun name _ => by simp [self], ?_⟩
    rw [String.toList_ofList, filled_of_self reading.faithful self, reading.sources_eq]
  · obtain ⟨first, reading, -⟩ := existsUnique_reading a.toList
    obtain ⟨second, reading', -⟩ := existsUnique_reading b.toList
    have joined : Reading (a ++ "\n" ++ b).toList (first ++ .kept '\n' :: second) := by
      refine ⟨?_, reading.faithful.append_line reading'.faithful⟩
      simp [Piece.source, reading.sources_eq, reading'.sources_eq]
    have last : first.getLast? ≠ some (.kept '\r') := fun h =>
      last (reading.sources_eq ▸ getLast?_sources h)
    rw [joined.expand_eq, reading.expand_eq, reading'.expand_eq, fill_append_line second last]
    cases fill env first <;> cases fill env second <;>
      simp [bind, Except.bind, Functor.map, Except.map, pure, Except.pure, String.append_assoc]

/-- A `#` in a name opens a comment as well, but a reference that starts before it counts. -/
example : expand (fun name => if name = "A#" then some "$\x7bB\x7d" else none)
    "k = $\x7bA#\x7d $\x7bB\x7d\r\n" = .ok "k = $\x7bB\x7d $\x7bB\x7d\n" := by
  rfl

end Retention.Settings
