import Retention.Proofs.References
import Retention.Settings.Basic

/-!
# References in quotes

References are replaced before the text is read as a document, when quotes mean nothing yet. In a
text that names a file (`fileText`), characters that need no escape go through both steps as they
stand: through the expansion as far as no reference starts among them (`expandChars_line`), through
the grammar because they stand for themselves in double quotes (`string?_verbatim`). A reference
among them is replaced by its value, with one exception: a `#` before it in the same quotes is taken
for the start of a comment, and the reference stays (`ofText_quoted_reference`).
-/

namespace Retention

namespace Toml

/-! ### Strings in double quotes -/

/-- Characters that stand for themselves in double quotes. -/
def Verbatim (cs : List Char) : Prop := ∀ c ∈ cs, c ≠ '"' ∧ c ≠ '\\' ∧ isForbidden c = false

section Verbatim

variable {cs : List Char} (plain : Verbatim cs)
include plain

theorem Verbatim.append {cs' : List Char} (plain' : Verbatim cs') : Verbatim (cs ++ cs') :=
  List.forall_mem_append.2 ⟨plain, plain'⟩

theorem Verbatim.line {c : Char} (h : c ∈ cs) : c ≠ '\n' ∧ c ≠ '\r' := by
  have allowed := (plain c h).2.2
  constructor <;> rintro rfl <;> simp [isForbidden] at allowed

theorem basicString_verbatim (acc rest : List Char) :
    basicString acc 0 (cs ++ '"' :: rest) = some (String.ofList (acc.reverse ++ cs), rest) := by
  induction cs generalizing acc with
  | nil => simp [basicString]
  | cons c cs ih =>
    obtain ⟨⟨quote, escape, allowed⟩, plain⟩ := List.forall_mem_cons.1 plain
    rw [List.cons_append, basicString, if_neg quote, if_neg escape, allowed, ih plain]
    simp

-- Without a character between them, the two quotes could be the first of three.
theorem string?_verbatim (nonempty : cs ≠ []) (rest : List Char) :
    string? ('"' :: (cs ++ '"' :: rest)) = some (String.ofList cs, rest) := by
  obtain ⟨c, others, rfl⟩ := List.exists_cons_of_ne_nil nonempty
  have quote : c ≠ '"' := (plain c List.mem_cons_self).1
  have read := basicString_verbatim plain [] rest
  rw [List.cons_append] at read ⊢
  unfold string?
  split <;> simp_all

theorem value?_verbatim (nonempty : cs ≠ []) (rest : List Char) (depth : Nat) :
    value? depth ('"' :: (cs ++ '"' :: rest)) = some (.string (String.ofList cs), rest) := by
  cases depth <;> simp [value?, string?_verbatim plain nonempty]

end Verbatim

/-! ### The text that names a file -/

/-- The text up to the path. -/
def pathHead : String := "[database]\ntype = \"sqlite\"\npath = \""

/-- The text of settings that name a file; behind the closing quote stands `last`. -/
def fileText (path last : String) : String := pathHead ++ path ++ "\"" ++ last

theorem toList_fileText (path last : String) :
    (fileText path last).toList = pathHead.toList ++ (path.toList ++ '"' :: last.toList) := by
  simp [fileText]

def fileDocument (path : String) : Entries :=
  [("database", .table [("path", .string path), ("type", .string "sqlite")])]

/-- The document while its last line is still to be read. -/
def headDocument : Members :=
  [("database", .table .header [("type", .value (.string "sqlite"))])]

theorem lines?_pathHead (n : Nat) (rest : List Char) :
    lines? (n + 3) [] [] (pathHead.toList ++ rest) =
      lines? (n + 1) ["database"] headDocument ("path = \"".toList ++ rest) := by
  have header (n : Nat) (rest : List Char) :
      lines? (n + 1) [] [] ("[database]\n".toList ++ rest) =
        lines? n ["database"] [("database", .table .header [])] rest := rfl
  have type (n : Nat) (rest : List Char) :
      lines? (n + 1) ["database"] [("database", .table .header [])]
          ("type = \"sqlite\"\n".toList ++ rest) =
        lines? n ["database"] headDocument rest := rfl
  exact (header (n + 2) _).trans (type (n + 1) _)

theorem assignment?_path {cs : List Char} (plain : Verbatim cs) (nonempty : cs ≠ [])
    (rest : List Char) :
    assignment? (some ∘ skipBlanks) (value? maxDepth) ("path = \"".toList ++ (cs ++ '"' :: rest)) =
      some ((["path"], .string (.ofList cs)), rest) := by
  have key (cs : List Char) :
      key? ("path = \"".toList ++ cs) = some (["path"], '=' :: ' ' :: '"' :: cs) := rfl
  rw [assignment?, key]
  simp [skipBlanks, isBlank, value?_verbatim plain nonempty rest maxDepth]

theorem within_headDocument (v : Value) :
    Members.within (Members.assign v ["path"]) ["database"] headDocument =
      some [("database", .table .header
        [("path", .value v), ("type", .value (.string "sqlite"))])] :=
  rfl

theorem lines?_path {cs : List Char} (plain : Verbatim cs) (nonempty : cs ≠ []) (n : Nat)
    {last : List Char} (ends : last = [] ∨ last = ['\n']) :
    lines? (n + 2) ["database"] headDocument ("path = \"".toList ++ (cs ++ '"' :: last)) =
      some [("database", .table .header
        [("path", .value (.string (.ofList cs))), ("type", .value (.string "sqlite"))])] := by
  have ended : nextLine? last = some [] := by rcases ends with rfl | rfl <;> rfl
  have finished (document : Members) : lines? (n + 1) ["database"] document [] = some document :=
    rfl
  rw [lines?_assignment rfl (assignment?_path plain nonempty last), within_headDocument,
    Option.bind_some, ended, Option.bind_some, finished]

theorem parse?_fileText {path : String} (plain : Verbatim path.toList) (nonempty : path ≠ "")
    {last : String} (ends : last = "" ∨ last = "\n") :
    parse? (fileText path last) = some (fileDocument path) := by
  have ends' : last.toList = [] ∨ last.toList = ['\n'] := by
    rcases ends with rfl | rfl <;> simp
  have unmarked (rest : List Char) :
      withoutMark (pathHead.toList ++ rest) = pathHead.toList ++ rest := rfl
  have rounds (rest : List Char) : (pathHead.toList ++ rest).length + 1 = rest.length + 33 + 3 := by
    have : pathHead.toList.length = 35 := rfl
    rw [List.length_append]
    omega
  rw [parse?, toList_fileText]
  simp only [unmarked, rounds]
  rw [lines?_pathHead, lines?_path plain (by simpa using nonempty) _ ends']
  simp [toEntries, Node.toValue, fileDocument]

end Toml

namespace Settings

open Toml (Verbatim isForbidden pathHead fileText toList_fileText fileDocument)

/-! ### The settings in the text -/

theorem ofDocument_file {path : String} (nonempty : path ≠ "") :
    ofDocument (fileDocument path) = .ok { database := .file { path } } := by
  have passed : checkValue (.table (fileDocument path)) = .ok () := by
    simp [fileDocument, checkValue, checkMembers, momentKey, bind, Except.bind]
  have read : ofEntries (fileDocument path) = .ok { database := .file { path } } := by
    rfl
  have settled : (checkValue (.table (fileDocument path)) *> ofEntries (fileDocument path)).mapError
      Problem.misfit = .ok { database := .file { path } } := by
    rw [passed, read]
    rfl
  have consistent : contradiction? { database := .file { path } } = none := by
    simp [contradiction?, DatabaseSettings.contradiction?, nonempty]
    rfl
  simp only [ofDocument, settled, bind, Except.bind, consistent]
  rfl

/-! ### The expansion of the text -/

variable {env : Environment}

/-- No dollar sign has a brace behind it. -/
def Unopened (cs : List Char) : Prop := ¬ ['$', '\x7b'] <:+: cs

/-- A text that stands for itself in double quotes and opens no reference. -/
structure Inert (text : String) : Prop where
  verbatim : Verbatim text.toList
  unopened : Unopened text.toList

/-- Characters of one line stay as they are if no reference starts among them, or a comment is open
before them; behind them one is open if there was a `#`. Their last character must not be the dollar
sign of a reference that goes on in the rest. -/
theorem expandChars_line (rest : List Char) {cs : List Char} (comment : Bool)
    (line : ∀ c ∈ cs, c ≠ '\n' ∧ c ≠ '\r') (plain : comment = true ∨ Unopened cs)
    (next : cs.getLast? ≠ some '$' ∨ rest.head? ≠ some '\x7b') :
    expandChars env 0 comment (cs ++ rest) =
      (cs ++ ·) <$> expandChars env 0 (comment || cs.contains '#') rest := by
  induction cs generalizing comment with
  | nil => simp
  | cons c cs ih =>
    obtain ⟨⟨newline, ret⟩, line⟩ := List.forall_mem_cons.1 line
    have kept : comment = true ∨
        ∀ name after, IsName name → c :: (cs ++ rest) ≠ written name ++ after := by
      refine plain.imp_right fun unopened name after _ same => ?_
      cases cs with
      | nil => simp_all [written]
      | cons d cs =>
        obtain ⟨rfl, rfl, -⟩ : c = '$' ∧ d = '\x7b' ∧ _ := by simpa [written] using same
        exact unopened ⟨[], cs, rfl⟩
    have plain' : (comment || c == '#') = true ∨ Unopened cs := by
      rcases plain with rfl | unopened
      · exact .inl rfl
      · refine .inr ?_
        rintro ⟨before, after, same⟩
        exact unopened ⟨c :: before, after, by simp [← same]⟩
    have next' : cs.getLast? ≠ some '$' ∨ rest.head? ≠ some '\x7b' := by
      cases cs with
      | nil => simp
      | cons d cs => rwa [List.getLast?_cons_cons] at next
    have passed : ((comment || c == '#') || cs.contains '#') =
        (comment || (c :: cs).contains '#') := by
      rw [List.contains_cons, Bool.or_assoc, BEq.comm]
    rw [List.cons_append, expandChars_kept newline (fun both => ret both.1) kept,
      ih _ line plain' next', passed, Functor.map_map]
    rfl

theorem expandChars_pathHead (rest : List Char) :
    expandChars env 0 false (pathHead.toList ++ rest) =
      (pathHead.toList ++ ·) <$> expandChars env 0 false rest := by
  have lines (rest : List Char) : pathHead.toList ++ rest = "[database]".toList ++
      '\n' :: ("type = \"sqlite\"".toList ++ '\n' :: ("path = \"".toList ++ rest)) := by
    rfl
  have bare (cs : List Char) (h : (∀ c ∈ cs, c ≠ '\n' ∧ c ≠ '\r') ∧ '#' ∉ cs ∧ Unopened cs ∧
      cs.getLast? ≠ some '$') (rest : List Char) :
      expandChars env 0 false (cs ++ rest) = (cs ++ ·) <$> expandChars env 0 false rest := by
    obtain ⟨line, uncommented, unopened, next⟩ := h
    simpa [uncommented] using expandChars_line rest false line (.inr unopened) (.inl next)
  have database := bare "[database]".toList (by simp [Unopened, List.infix_cons_iff])
  have type := bare "type = \"sqlite\"".toList (by simp [Unopened, List.infix_cons_iff])
  have path := bare "path = \"".toList (by simp [Unopened, List.infix_cons_iff])
  rw [lines, database, expandChars_newline, type, expandChars_newline, path]
  simp only [Functor.map_map, lines]

/-- What a path with a reference in it becomes. -/
def filledPath (before name value after : String) : String :=
  if '#' ∈ before.toList then before ++ String.ofList (written name) ++ after
  else before ++ value ++ after

section Path

variable {name before value after last : String}

theorem expandChars_last (comment : Bool) (ends : last = "" ∨ last = "\n") :
    expandChars env 0 comment ('"' :: last.toList) = .ok ('"' :: last.toList) := by
  rcases ends with rfl | rfl <;> cases comment <;> rfl

theorem verbatim_written (plain : Verbatim name.toList) : Verbatim (written name) := by
  have closed : Verbatim (name.toList ++ ['\x7d']) := plain.append (by simp [Verbatim, isForbidden])
  exact List.forall_mem_cons.2 ⟨by decide, List.forall_mem_cons.2 ⟨by decide, closed⟩⟩

theorem filledPath_verbatim (plain : Verbatim name.toList) (plain_before : Verbatim before.toList)
    (plain_value : Verbatim value.toList) (plain_after : Verbatim after.toList) :
    Verbatim (filledPath before name value after).toList := by
  unfold filledPath
  split_ifs <;> simp only [String.toList_append, String.toList_ofList]
  · exact (plain_before.append (verbatim_written plain)).append plain_after
  · exact (plain_before.append plain_value).append plain_after

theorem filledPath_ne_empty (name : String) (nonempty : before ++ value ++ after ≠ "") :
    filledPath before name value after ≠ "" := by
  unfold filledPath
  split_ifs with hidden
  · intro empty
    have : before.toList = [] := by simp_all
    simp [this] at hidden
  · exact nonempty

theorem expandChars_quoted (isName : IsName name) (plain : Verbatim name.toList)
    (given : env name = some value) (hb : Inert before) (ha : Inert after)
    (ends : last = "" ∨ last = "\n") :
    expandChars env 0 false
        (before.toList ++ (written name ++ (after.toList ++ '"' :: last.toList))) =
      .ok ((filledPath before name value after).toList ++ '"' :: last.toList) := by
  have behind (comment : Bool) : expandChars env 0 comment (after.toList ++ '"' :: last.toList) =
      .ok (after.toList ++ '"' :: last.toList) := by
    rw [expandChars_line _ _ (fun c => ha.verbatim.line) (.inr ha.unopened) (.inr (by simp)),
      expandChars_last _ ends]
    rfl
  have front := @expandChars_line env (written name ++ (after.toList ++ '"' :: last.toList)) _ false
    (fun c => hb.verbatim.line) (.inr hb.unopened) (.inr (by simp [written]))
  by_cases hidden : '#' ∈ before.toList
  · have closed : (written name).getLast? ≠ some '$' := by
      rw [written, ← List.cons_append, ← List.cons_append, List.getLast?_concat]
      decide
    have kept := @expandChars_line env (after.toList ++ '"' :: last.toList) _ true
      (fun c => (verbatim_written plain).line) (.inl rfl) (.inl closed)
    simp [front, hidden, kept, behind, filledPath, Functor.map, Except.map]
  · simp [front, hidden, expandChars_reference isName, given, behind, filledPath, Functor.map,
      Except.map]

theorem ofText_filledPath (isName : IsName name) (plain : Verbatim name.toList)
    (given : env name = some value) (hb : Inert before) (plain_value : Verbatim value.toList)
    (ha : Inert after) (nonempty : before ++ value ++ after ≠ "")
    (ends : last = "" ∨ last = "\n") :
    ofText env (fileText (before ++ String.ofList (written name) ++ after) last) =
      .ok { database := .file { path := filledPath before name value after } } := by
  have ne := filledPath_ne_empty name nonempty
  have parsed := Toml.parse?_fileText
    (filledPath_verbatim plain hb.verbatim plain_value ha.verbatim) ne ends
  have expanded : expand env (fileText (before ++ String.ofList (written name) ++ after) last) =
      .ok (fileText (filledPath before name value after) last) := by
    rw [expand, toList_fileText, expandChars_pathHead]
    simp [expandChars_quoted isName plain given hb ha ends, Functor.map, Except.map,
      ← String.toList_inj, toList_fileText]
  simp [ofText, expanded, document, parsed, Except.mapError, bind, Except.bind,
    ofDocument_file ne]

/-- A reference in the quotes of a path is replaced, whatever harmless text stands around it and
whatever harmless value it has, unless a `#` stands before it. -/
theorem ofText_quoted_reference (isName : IsName name) (plain : Verbatim name.toList)
    (given : env name = some value) (hb : Inert before) (plain_value : Verbatim value.toList)
    (ha : Inert after) (nonempty : before ++ value ++ after ≠ "")
    (ends : last = "" ∨ last = "\n") :
    ofText env (fileText (before ++ String.ofList (written name) ++ after) last) =
      .ok { database := .file { path :=
        if '#' ∈ before.toList then before ++ String.ofList (written name) ++ after
        else before ++ value ++ after } } :=
  ofText_filledPath isName plain given hb plain_value ha nonempty ends

end Path

theorem ofText_quoted_home :
    ofText (fun name => if name = "HOME" then some "/root#1" else none)
        (fileText "$\x7bHOME\x7d/th $1.db" "\n") =
      .ok { database := .file { path := "/root#1/th $1.db" } } :=
  @ofText_quoted_reference _ "HOME" "" "/root#1" "/th $1.db" "\n" ⟨by simp, by simp, by simp⟩
    (by simp [Verbatim, isForbidden]) rfl ⟨by simp [Verbatim], by simp [Unopened]⟩
    (by simp [Verbatim, isForbidden])
    ⟨by simp [Verbatim, isForbidden], by simp [Unopened, List.infix_cons_iff]⟩ (by simp) (.inr rfl)

/-- In quotes a `#` starts no comment, and yet the reference behind it stays in the path: what is
loaded is not the file whose name has the value in its place. -/
theorem quoted_hash_hides_reference :
    let loaded := ofText (fun name => if name = "V" then some "v" else none)
      (fileText "a#$\x7bV\x7d" "")
    loaded = .ok { database := .file { path := "a#$\x7bV\x7d" } } ∧
      ∀ settings file, loaded = .ok settings → settings.database = .file file →
        file.path ≠ "a#v" := by
  intro loaded
  have kept := @ofText_filledPath (fun name => if name = "V" then some "v" else none)
    "V" "a#" "v" "" "" ⟨by simp, by simp, by simp⟩ (by simp [Verbatim, isForbidden]) rfl
    ⟨by simp [Verbatim, isForbidden], by simp [Unopened, List.infix_cons_iff]⟩
    (by simp [Verbatim, isForbidden]) ⟨by simp [Verbatim], by simp [Unopened]⟩ (by simp) (.inl rfl)
  rw [show "a#" ++ String.ofList (written "V") ++ "" = "a#$\x7bV\x7d" from rfl,
    show filledPath "a#" "V" "v" "" = "a#$\x7bV\x7d" from rfl] at kept
  refine ⟨kept, fun settings file accepted named => ?_⟩
  obtain rfl := Except.ok.inj (kept.symm.trans accepted)
  obtain rfl := DatabaseSettings.file.inj named
  decide

end Settings

end Retention
