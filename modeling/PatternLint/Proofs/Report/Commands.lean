import Mathlib.Tactic
import PatternLint.Proofs.Text.Decimal
import PatternLint.Proofs.Text.Pieces
import PatternLint.Report

/-!
# Reading workflow commands back

A build runner cuts the report into lines and every line into a command name, properties and data; it
then puts the escapes back, one code after the other over the whole text.  That undoes the escaping only
because the code of the percent sign is put back last (`unescape_escape`), and the cuts fall where they
should because no escaped value holds the character that ends it.  So each line says exactly what its
issue or its annotation says, whatever the texts in it are.
-/

namespace PatternLint.Report

open PatternLint.Text

/-! ### Escapes -/

/-- The character `char` is written as a percent sign and two digits. -/
structure Code where
  char : Char
  high : Char
  low : Char
  deriving DecidableEq, Repr

namespace Code

def text (k : Code) : List Char := ['%', k.high, k.low]

/-- How a character is written under some codes. -/
def write (codes : List Code) (c : Char) : List Char :=
  match codes.find? (·.char = c) with
  | some k => k.text
  | none => [c]

end Code

/-- A text with every occurrence of `old`, which is not empty, replaced by `new`; the occurrences are
looked for from left to right. -/
def replaceAll (old new : List Char) : List Char → List Char
  | [] => []
  | c :: rest =>
    if old.isPrefixOf (c :: rest) then new ++ replaceAll old new (rest.drop (old.length - 1))
    else c :: replaceAll old new rest
termination_by s => s.length
decreasing_by
  · simp only [List.length_drop, List.length_cons]
    omega
  · simp

/-- Puts the characters of some codes back, one code after the other. -/
def unescape (codes : List Code) (s : List Char) : List Char :=
  codes.foldl (fun s k => replaceAll k.text [k.char] s) s

def dataCodes : List Code := [⟨'\r', '0', 'D'⟩, ⟨'\n', '0', 'A'⟩, ⟨'%', '2', '5'⟩]

def propertyCodes : List Code :=
  [⟨'\r', '0', 'D'⟩, ⟨'\n', '0', 'A'⟩, ⟨':', '3', 'A'⟩, ⟨',', '2', 'C'⟩, ⟨'%', '2', '5'⟩]

theorem write_eq_text {codes : List Code} {c : Char} (h : c ∈ codes.map (·.char)) :
    ∃ k ∈ codes, k.char = c ∧ Code.write codes c = k.text := by
  unfold Code.write
  cases hfind : codes.find? (·.char = c) with
  | none =>
    obtain ⟨k, hk, hkc⟩ := List.mem_map.mp h
    have := List.find?_eq_none.mp hfind k hk
    simp [hkc] at this
  | some k =>
    exact ⟨k, List.mem_of_find?_eq_some hfind, by simpa using List.find?_some hfind, rfl⟩

theorem write_of_notMem {codes : List Code} {c : Char} (h : c ∉ codes.map (·.char)) :
    Code.write codes c = [c] := by
  have hfind : codes.find? (·.char = c) = none := by
    simpa [List.find?_eq_none] using h
  simp [Code.write, hfind]

/-- The order of codes does not matter if each is for a character of its own. -/
theorem write_perm {codes codes' : List Code} (hperm : codes.Perm codes')
    (hdistinct : (codes.map (·.char)).Nodup) (c : Char) : Code.write codes c = Code.write codes' c := by
  have hsame : c ∈ codes.map (·.char) ↔ c ∈ codes'.map (·.char) := (hperm.map _).mem_iff
  by_cases hc : c ∈ codes.map (·.char)
  · obtain ⟨k, hk, hkc, hwrite⟩ := write_eq_text hc
    obtain ⟨k', hk', hkc', hwrite'⟩ := write_eq_text (hsame.mp hc)
    have heq : k = k' :=
      List.inj_on_of_nodup_map hdistinct hk (hperm.mem_iff.mpr hk') (hkc.trans hkc'.symm)
    rw [hwrite, hwrite', heq]
  · rw [write_of_notMem hc, write_of_notMem (hsame.not.mp hc)]

/-- One more code is written over a text without touching the codes in it, if it is for none of their
characters. -/
theorem encodeChar_flatMap_write {codes : List Code} {k : Code} (hnew : ∀ j ∈ codes, k.char ∉ j.text)
    (s : List Char) :
    encodeChar k.char k.text (s.flatMap (Code.write codes)) =
      s.flatMap (Code.write (codes ++ [k])) := by
  unfold encodeChar
  rw [List.flatMap_assoc]
  refine List.flatMap_congr fun c _ => ?_
  unfold Code.write
  rw [List.find?_append]
  cases hfind : codes.find? (·.char = c) with
  | some j =>
    have hfree := hnew j (List.mem_of_find?_eq_some hfind)
    refine (List.flatMap_congr fun d hd => if_neg ?_).trans (List.flatMap_singleton' j.text)
    rintro rfl
    exact hfree hd
  | none =>
    by_cases hc : c = k.char
    · simp [hc]
    · simp [hc, Ne.symm hc]

/-- **Codes written one after the other** are written as if each character were looked up once. -/
theorem foldl_encodeChar (codes : List Code) (hnew : codes.Pairwise fun j k => k.char ∉ j.text)
    (s : List Char) :
    codes.foldl (fun t k => encodeChar k.char k.text t) s =
      s.flatMap (Code.write codes) := by
  induction codes using List.reverseRecOn with
  | nil => exact (List.flatMap_singleton' s).symm
  | append_singleton codes k ih =>
    obtain ⟨hcodes, -, hlast⟩ := List.pairwise_append.mp hnew
    rw [List.foldl_concat, ih hcodes]
    exact encodeChar_flatMap_write (fun j hj => hlast j hj k List.mem_cons_self) s

theorem toList_escapeData (s : String) :
    (escapeData s).toList = s.toList.flatMap (Code.write dataCodes) := by
  have hchain := foldl_encodeChar [⟨'%', '2', '5'⟩, ⟨'\r', '0', 'D'⟩, ⟨'\n', '0', 'A'⟩]
    (by decide) s.toList
  simp only [List.foldl_cons, List.foldl_nil, Code.text] at hchain
  rw [escapeData, String.toList_ofList, escapeDataChars, hchain]
  exact List.flatMap_congr fun c _ => write_perm (by decide) (by decide) c

theorem toList_escapeProperty (s : String) :
    (escapeProperty s).toList = s.toList.flatMap (Code.write propertyCodes) := by
  have hchain := foldl_encodeChar [⟨'%', '2', '5'⟩, ⟨'\r', '0', 'D'⟩, ⟨'\n', '0', 'A'⟩,
    ⟨':', '3', 'A'⟩, ⟨',', '2', 'C'⟩] (by decide) s.toList
  simp only [List.foldl_cons, List.foldl_nil, Code.text] at hchain
  rw [escapeProperty, String.toList_ofList, escapeDataChars, hchain]
  exact List.flatMap_congr fun c _ => write_perm (by decide) (by decide) c

/-- What it takes for the codes to be put back one after the other: they are told apart, and the
percent sign, with which every code starts, comes last. -/
structure Reversible (codes : List Code) : Prop where
  distinct : codes.Pairwise fun j k => j.char ≠ k.char ∧ j.text ≠ k.text
  digits : ∀ k ∈ codes, k.high ≠ '%' ∧ k.low ≠ '%'
  percent : codes.getLast?.map (·.char) = some '%'

theorem reversible_dataCodes : Reversible dataCodes where
  distinct := by decide
  digits := by decide
  percent := rfl

theorem reversible_propertyCodes : Reversible propertyCodes where
  distinct := by decide
  digits := by decide
  percent := rfl

theorem replaceAll_of_ne {k : Code} {c : Char} (h : c ≠ '%') (new rest : List Char) :
    replaceAll k.text new (c :: rest) = c :: replaceAll k.text new rest := by
  rw [replaceAll, if_neg]
  simp [Code.text, Ne.symm h]

theorem replaceAll_same (k : Code) (new rest : List Char) :
    replaceAll k.text new (k.text ++ rest) = new ++ replaceAll k.text new rest := by
  simp [Code.text, replaceAll]

theorem replaceAll_other {j k : Code} (hne : j.text ≠ k.text) (hdigits : j.high ≠ '%' ∧ j.low ≠ '%')
    (new rest : List Char) :
    replaceAll k.text new (j.text ++ rest) = j.text ++ replaceAll k.text new rest := by
  have hfirst : ¬ k.text.isPrefixOf ('%' :: (j.high :: j.low :: rest)) := by
    intro h
    apply hne
    simp only [Code.text, List.isPrefixOf_iff_prefix, List.cons_prefix_cons, List.nil_prefix] at h
    simp [Code.text, h]
  have hopen : j.text ++ rest = '%' :: (j.high :: j.low :: rest) := rfl
  rw [hopen, replaceAll, if_neg hfirst, replaceAll_of_ne hdigits.1, replaceAll_of_ne hdigits.2]
  rfl

namespace Reversible

variable {k : Code} {codes : List Code}

theorem percent_mem (h : Reversible codes) : '%' ∈ codes.map (·.char) := by
  obtain ⟨k, hk, hc⟩ := Option.map_eq_some_iff.mp h.percent
  exact List.mem_map.mpr ⟨k, List.mem_of_getLast? hk, hc⟩

/-- Putting the first code back leaves a text that is written under the others. -/
theorem replaceAll_write (h : Reversible (k :: codes)) (c : Char) (rest : List Char) :
    replaceAll k.text [k.char] (Code.write (k :: codes) c ++ rest) =
      Code.write codes c ++ replaceAll k.text [k.char] rest := by
  obtain ⟨hfirst, -⟩ := List.pairwise_cons.mp h.distinct
  by_cases hc : k.char = c
  · have hnot : c ∉ codes.map (·.char) := by
      intro hmem
      obtain ⟨j, hj, hjc⟩ := List.mem_map.mp hmem
      exact (hfirst j hj).1 (hc.trans hjc.symm)
    have hwrite : Code.write (k :: codes) c = k.text := by simp [Code.write, hc]
    rw [hwrite, replaceAll_same, write_of_notMem hnot, hc]
  · have hwrite : Code.write (k :: codes) c = Code.write codes c := by simp [Code.write, hc]
    rw [hwrite]
    by_cases hmem : c ∈ codes.map (·.char)
    · obtain ⟨j, hj, -, hjc⟩ := write_eq_text hmem
      rw [hjc]
      exact replaceAll_other (hfirst j hj).2.symm (h.digits j (List.mem_cons_of_mem _ hj)) _ _
    · -- a character that stands for itself is no percent sign, since that one has a code
      have hne : c ≠ '%' := by
        rintro rfl
        rcases List.mem_cons.mp h.percent_mem with hk | hk
        · exact hc hk.symm
        · exact hmem hk
      rw [write_of_notMem hmem]
      exact replaceAll_of_ne hne _ _

theorem replaceAll_flatMap (h : Reversible (k :: codes)) (s : List Char) :
    replaceAll k.text [k.char] (s.flatMap (Code.write (k :: codes))) =
      s.flatMap (Code.write codes) := by
  induction s with
  | nil => simp [replaceAll]
  | cons c s ih => rw [List.flatMap_cons, List.flatMap_cons, h.replaceAll_write, ih]

/-- **Unescaping undoes escaping**, although every code is put back in the whole text at once. -/
theorem unescape_escape (h : Reversible codes) (s : List Char) :
    unescape codes (s.flatMap (Code.write codes)) = s := by
  induction codes with
  | nil => simpa using h.percent
  | cons k codes ih =>
    -- one replacement takes the text from being written under all codes to all but the first
    have hstep : unescape (k :: codes) (s.flatMap (Code.write (k :: codes))) =
        unescape codes (s.flatMap (Code.write codes)) := by
      rw [unescape, List.foldl_cons, h.replaceAll_flatMap]
      rfl
    rw [hstep]
    cases codes with
    | nil => exact List.flatMap_singleton' s
    | cons j codes =>
      refine ih ⟨(List.pairwise_cons.mp h.distinct).2, ?_, ?_⟩
      · exact fun i hi => h.digits i (List.mem_cons_of_mem _ hi)
      · simpa [List.getLast?_cons_cons] using h.percent

end Reversible

theorem unescape_escapeData (s : String) :
    unescape dataCodes (escapeData s).toList = s.toList := by
  rw [toList_escapeData, reversible_dataCodes.unescape_escape]

theorem unescape_escapeProperty (s : String) :
    unescape propertyCodes (escapeProperty s).toList = s.toList := by
  rw [toList_escapeProperty, reversible_propertyCodes.unescape_escape]

/-- A written text holds none of the characters that have a code, but for the percent sign. -/
theorem notMem_flatMap_write {codes : List Code} {c : Char} (hc : c ∈ codes.map (·.char))
    (hcode : ∀ k ∈ codes, c ∉ k.text) (s : List Char) : c ∉ s.flatMap (Code.write codes) := by
  intro hmem
  obtain ⟨x, -, hx⟩ := List.mem_flatMap.mp hmem
  by_cases hcoded : x ∈ codes.map (·.char)
  · obtain ⟨k, hk, -, hwrite⟩ := write_eq_text hcoded
    exact hcode k hk (hwrite ▸ hx)
  · rw [write_of_notMem hcoded, List.mem_singleton] at hx
    exact hcoded (hx ▸ hc)

theorem notMem_escapeData {c : Char} (hc : c = '\r' ∨ c = '\n') (s : String) :
    c ∉ (escapeData s).toList := by
  rw [toList_escapeData]
  rcases hc with rfl | rfl <;> exact notMem_flatMap_write (by decide) (by decide) _

theorem notMem_escapeProperty {c : Char} (hc : c = '\r' ∨ c = '\n' ∨ c = ':' ∨ c = ',') (s : String) :
    c ∉ (escapeProperty s).toList := by
  rw [toList_escapeProperty]
  rcases hc with rfl | rfl | rfl | rfl <;> exact notMem_flatMap_write (by decide) (by decide) _

/-! ### Cuts -/

theorem notMem_joinWith {c : Char} {between : String} (hsep : c ∉ between.toList)
    {ss : List String} (h : ∀ s ∈ ss, c ∉ s.toList) : c ∉ (joinWith between ss).toList := by
  induction ss with
  | nil => simp [joinWith]
  | cons s ss ih =>
    have hs : c ∉ s.toList := h s List.mem_cons_self
    cases ss with
    | nil => exact hs
    | cons t ss =>
      have hrest := ih fun x hx => h x (List.mem_cons_of_mem _ hx)
      simp [joinWith, hs, hsep, hrest]

/-- What stands before and behind the first occurrence of a character. -/
def cutFirst (sep : Char) : List Char → Option (List Char × List Char)
  | [] => none
  | c :: rest =>
    if c = sep then some ([], rest)
    else (cutFirst sep rest).map fun (head, tail) => (c :: head, tail)

/-- What stands before and behind the first two colons in a row. -/
def cutColons : List Char → Option (List Char × List Char)
  | [] => none
  | ':' :: ':' :: rest => some ([], rest)
  | c :: rest => (cutColons rest).map fun (head, tail) => (c :: head, tail)

theorem cutFirst_append {sep : Char} {head : List Char} (h : sep ∉ head) (tail : List Char) :
    cutFirst sep (head ++ sep :: tail) = some (head, tail) := by
  induction head with
  | nil => simp [cutFirst]
  | cons c head ih =>
    rw [List.mem_cons, not_or] at h
    obtain ⟨hc, hhead⟩ := h
    simp [cutFirst, Ne.symm hc, ih hhead]

theorem cutFirst_of_notMem {sep : Char} {s : List Char} (h : sep ∉ s) : cutFirst sep s = none := by
  induction s with
  | nil => rfl
  | cons c s ih =>
    rw [List.mem_cons, not_or] at h
    obtain ⟨hc, hs⟩ := h
    simp [cutFirst, Ne.symm hc, ih hs]

theorem cutColons_append {head : List Char} (h : ':' ∉ head) (tail : List Char) :
    cutColons (head ++ ':' :: ':' :: tail) = some (head, tail) := by
  induction head with
  | nil => rfl
  | cons c head ih =>
    rw [List.mem_cons, not_or] at h
    obtain ⟨hc, hhead⟩ := h
    rw [List.cons_append, cutColons, ih hhead]
    · rfl
    · rintro rest rfl
      exact absurd rfl hc

/-! ### Commands -/

/-- A workflow command as a runner reads it. -/
structure WorkflowCommand where
  name : String
  properties : List (String × String)
  data : String
  deriving DecidableEq, Repr

namespace WorkflowCommand

/-- A property: its name and, behind the first equals sign, its value. -/
def property? (s : List Char) : Option (String × String) :=
  (cutFirst '=' s).map fun (name, value) =>
    (String.ofList name, String.ofList (unescape propertyCodes value))

/-- The command of a line: two colons, a name, properties behind a blank if there is one, two colons
again, and the data. -/
def ofLine? : List Char → Option WorkflowCommand
  | ':' :: ':' :: rest => do
    let (head, data) ← cutColons rest
    let data := String.ofList (unescape dataCodes data)
    match cutFirst ' ' head with
    | none => some ⟨String.ofList head, [], data⟩
    | some (name, properties) =>
      let properties ← (splitOn ',' properties).mapM property?
      some ⟨String.ofList name, properties, data⟩
  | _ => none

/-- A text of letters only; no cut falls into it. -/
def IsWord (s : String) : Prop := ∀ c ∈ s.toList, c.isAlpha

instance (s : String) : Decidable (IsWord s) :=
  decidable_of_iff (s.toList.all Char.isAlpha) List.all_eq_true

theorem IsWord.notMem {s : String} (h : IsWord s) {c : Char} (hc : c.isAlpha = false) :
    c ∉ s.toList := by
  intro hmem
  have halpha := h c hmem
  rw [hc] at halpha
  exact absurd halpha (by decide)

/-- A property as it stands in a command. -/
def written (p : String × String) : String := p.1 ++ "=" ++ escapeProperty p.2

theorem property?_written {p : String × String} (h : IsWord p.1) :
    property? (written p).toList = some p := by
  have hopen : (written p).toList = p.1.toList ++ '=' :: (escapeProperty p.2).toList := by
    simp [written]
  rw [property?, hopen, cutFirst_append (h.notMem rfl)]
  simp [unescape_escapeProperty]

theorem mapM_property? {ps : List (String × String)} (h : ∀ p ∈ ps, IsWord p.1) :
    ((ps.map written).map String.toList).mapM property? = some ps := by
  induction ps with
  | nil => rfl
  | cons p ps ih =>
    have hp := property?_written (h p List.mem_cons_self)
    have hps := ih fun q hq => h q (List.mem_cons_of_mem _ hq)
    rw [List.map_cons, List.map_cons, List.mapM_cons, hp, hps]
    rfl

/-- A separator other than the equals sign does not occur in a property. -/
theorem notMem_written {p : String × String} (h : IsWord p.1) {c : Char}
    (hc : c = '\r' ∨ c = '\n' ∨ c = ':' ∨ c = ',') : c ∉ (written p).toList := by
  have hname : c ∉ p.1.toList := by
    rcases hc with rfl | rfl | rfl | rfl <;> exact h.notMem rfl
  have hequals : c ∉ "=".toList := by
    rcases hc with rfl | rfl | rfl | rfl <;> decide
  simp only [written, String.toList_append, List.mem_append, not_or]
  exact ⟨⟨hname, hequals⟩, notMem_escapeProperty hc p.2⟩

theorem ofLine?_bare {name : String} (h : IsWord name) (data : String) :
    ofLine? ("::" ++ name ++ "::" ++ escapeData data).toList = some ⟨name, [], data⟩ := by
  have hopen : ("::" ++ name ++ "::" ++ escapeData data).toList =
      ':' :: ':' :: (name.toList ++ ':' :: ':' :: (escapeData data).toList) := by
    simp
  rw [hopen, ofLine?, cutColons_append (h.notMem rfl)]
  simp [cutFirst_of_notMem (h.notMem (c := ' ') rfl), unescape_escapeData]

theorem ofLine?_written {name : String} (hname : IsWord name) {ps : List (String × String)}
    (hne : ps ≠ []) (hps : ∀ p ∈ ps, IsWord p.1) (data : String) :
    ofLine? ("::" ++ name ++ " " ++ joinWith "," (ps.map written) ++ "::" ++ escapeData data).toList =
      some ⟨name, ps, data⟩ := by
  have hclean : ∀ {c : Char}, c = ':' ∨ c = ',' → ∀ s ∈ ps.map written, c ∉ s.toList := by
    intro c hc s hs
    obtain ⟨p, hp, rfl⟩ := List.mem_map.mp hs
    exact notMem_written (hps p hp) (Or.inr (Or.inr hc))
  have hopen : ("::" ++ name ++ " " ++ joinWith "," (ps.map written) ++ "::" ++
      escapeData data).toList =
      ':' :: ':' :: ((name.toList ++ ' ' :: (joinWith "," (ps.map written)).toList) ++
        ':' :: ':' :: (escapeData data).toList) := by
    simp
  have hhead : ':' ∉ name.toList ++ ' ' :: (joinWith "," (ps.map written)).toList := by
    have hprops : ':' ∉ (joinWith "," (ps.map written)).toList :=
      notMem_joinWith (by decide) (hclean (Or.inl rfl))
    have hcolon := hname.notMem (c := ':') rfl
    simp [hprops, hcolon]
  have hpieces : splitOn ',' (joinWith "," (ps.map written)).toList =
      (ps.map written).map String.toList :=
    splitOn_joinWith rfl (by simpa using hne) (hclean (Or.inr rfl))
  rw [hopen, ofLine?, cutColons_append hhead]
  simp only [Option.bind_eq_bind, Option.bind_some, cutFirst_append (hname.notMem (c := ' ') rfl),
    hpieces, mapM_property? hps, unescape_escapeData, String.ofList_toList]

theorem ofLine?_issueCommand (i : Issue) :
    ofLine? (issueCommand i).toList = some ⟨"warning", [], i.message⟩ := by
  have hopen : issueCommand i = "::" ++ "warning" ++ "::" ++ escapeData i.message := rfl
  rw [hopen, ofLine?_bare (by decide)]

theorem isWord_name (s : Severity) : IsWord s.name := by
  cases s <;> decide

/-- The names that properties have, each at most once and in this order. -/
def propertyNames : List String := ["file", "line", "endLine", "col", "endColumn", "title"]

theorem names_commandProperties (a : Annotation) :
    ((commandProperties a).map (·.1)).Sublist propertyNames := by
  unfold commandProperties propertyNames
  split_ifs <;> simp

theorem isWord_commandProperties (a : Annotation) : ∀ p ∈ commandProperties a, IsWord p.1 := by
  intro p hp
  have hword : ∀ name ∈ propertyNames, IsWord name := by decide
  exact hword p.1 ((names_commandProperties a).subset (List.mem_map_of_mem hp))

theorem workflowCommand_eq (a : Annotation) :
    workflowCommand a = "::" ++ a.severity.name ++ " " ++
      joinWith "," ((commandProperties a).map written) ++ "::" ++ escapeData a.message :=
  rfl

theorem ofLine?_workflowCommand (a : Annotation) :
    ofLine? (workflowCommand a).toList =
      some ⟨a.severity.name, commandProperties a, a.message⟩ := by
  have hne : commandProperties a ≠ [] := by simp [commandProperties]
  rw [workflowCommand_eq]
  exact ofLine?_written (isWord_name a.severity) hne (isWord_commandProperties a) a.message

end WorkflowCommand

/-! ### Notices -/

/-- What a command tells the runner.  A property that a command does not have is `none`. -/
structure Notice where
  severity : Severity
  file : Option String
  line : Option Int
  endLine : Option Int
  column : Option Int
  endColumn : Option Int
  title : Option String
  message : String
  deriving DecidableEq, Repr

namespace Notice

/-- The notice of a command, whose properties are known ones and no two of them the same; those that are
numbers have to be numbers. -/
def ofCommand? (c : WorkflowCommand) : Option Notice := do
  let severity ← Severity.all.find? (·.name == c.name)
  let names := c.properties.map (·.1)
  guard (names.Nodup ∧ ∀ n ∈ names, n ∈ WorkflowCommand.propertyNames)
  let line ← (c.properties.lookup "line").mapM wholeInt?
  let endLine ← (c.properties.lookup "endLine").mapM wholeInt?
  let column ← (c.properties.lookup "col").mapM wholeInt?
  let endColumn ← (c.properties.lookup "endColumn").mapM wholeInt?
  let file := c.properties.lookup "file"
  let title := c.properties.lookup "title"
  return ⟨severity, file, line, endLine, column, endColumn, title, c.data⟩

def ofLine? (line : List Char) : Option Notice := (WorkflowCommand.ofLine? line).bind ofCommand?

/-- An issue is a warning without properties. -/
def ofIssue (i : Issue) : Notice := ⟨.warning, none, none, none, none, none, none, i.message⟩

/-- The columns of an annotation are told only if it stays on one line. -/
def ofFinding (a : Annotation) : Notice where
  severity := a.severity
  file := some a.file
  line := some a.startLine
  endLine := some a.endLine
  column := if a.startLine = a.endLine then some a.startColumn else none
  endColumn := if a.startLine = a.endLine then some a.endColumn else none
  title := some a.title
  message := a.message

theorem ofLine?_issueCommand (i : Issue) : ofLine? (issueCommand i).toList = some (ofIssue i) := by
  rw [ofLine?, WorkflowCommand.ofLine?_issueCommand]
  rfl

theorem find?_name (s : Severity) : Severity.all.find? (·.name == s.name) = some s := by
  cases s <;> decide

theorem ofLine?_workflowCommand (a : Annotation) :
    ofLine? (workflowCommand a).toList = some (ofFinding a) := by
  have hnames : ((commandProperties a).map (·.1)).Nodup ∧
      ∀ n ∈ (commandProperties a).map (·.1), n ∈ WorkflowCommand.propertyNames := by
    have hsub := WorkflowCommand.names_commandProperties a
    exact ⟨hsub.nodup (by decide), fun n hn => hsub.subset hn⟩
  rw [ofLine?, WorkflowCommand.ofLine?_workflowCommand, Option.bind_some, ofCommand?, find?_name]
  simp only [Option.bind_eq_bind, Option.bind_some, guard, if_pos hnames]
  unfold ofFinding commandProperties
  by_cases hline : a.startLine = a.endLine
  · simp [hline, List.lookup_cons]
  · simp [hline, List.lookup_cons]

end Notice

/-! ### Reports -/

theorem notMem_issueCommand {c : Char} (hc : c = '\r' ∨ c = '\n') (i : Issue) :
    c ∉ (issueCommand i).toList := by
  have hdata := notMem_escapeData hc i.message
  have hname : c ∉ "::warning::".toList := by
    rcases hc with rfl | rfl <;> decide
  simp only [issueCommand, String.toList_append, List.mem_append, not_or]
  exact ⟨hname, hdata⟩

theorem notMem_workflowCommand {c : Char} (hc : c = '\r' ∨ c = '\n') (a : Annotation) :
    c ∉ (workflowCommand a).toList := by
  have hdata := notMem_escapeData hc a.message
  have hname : c ∉ a.severity.name.toList := by
    rcases hc with rfl | rfl <;> exact (WorkflowCommand.isWord_name a.severity).notMem rfl
  have hmarks : c ∉ "::".toList ∧ c ∉ " ".toList ∧ c ∉ ",".toList := by
    rcases hc with rfl | rfl <;> decide
  have hprops : c ∉ (joinWith "," ((commandProperties a).map WorkflowCommand.written)).toList := by
    refine notMem_joinWith hmarks.2.2 fun s hs => ?_
    obtain ⟨p, hp, rfl⟩ := List.mem_map.mp hs
    exact WorkflowCommand.notMem_written (WorkflowCommand.isWord_commandProperties a p hp)
      (hc.imp_right Or.inl)
  rw [WorkflowCommand.workflowCommand_eq]
  simp only [String.toList_append, List.mem_append, not_or]
  exact ⟨⟨⟨⟨⟨hmarks.1, hname⟩, hmarks.2.1⟩, hprops⟩, hmarks.1⟩, hdata⟩

/-- The lines of a report are the commands of its issues and of its annotations. -/
theorem splitOn_workflowCommands {r : LintResult} (h : r.issues ≠ [] ∨ r.annotations ≠ []) :
    splitOn '\n' (workflowCommands r).toList =
      (r.issues.map issueCommand ++ r.annotations.map workflowCommand).map String.toList := by
  refine splitOn_joinWith rfl ?_ fun s hs => ?_
  · rcases h with h | h <;> simp [h]
  · rcases List.mem_append.mp hs with hs | hs
    · obtain ⟨i, -, rfl⟩ := List.mem_map.mp hs
      exact notMem_issueCommand (Or.inr rfl) i
    · obtain ⟨a, -, rfl⟩ := List.mem_map.mp hs
      exact notMem_workflowCommand (Or.inr rfl) a

/-- **A report can be read back and cannot be forged from inside.**  It has one line for every issue and
for every annotation, no line holds a return, and a runner gets from each line exactly what the issue or
the annotation says, whatever its texts are. -/
theorem workflow_report_decodes [Layout.Console] (r : LintResult) (h : r.issues ≠ [] ∨ r.annotations ≠ []) :
    (splitOn '\n' (Reporter.workflow.render r).toList).length =
        r.issues.length + r.annotations.length ∧
      (∀ l ∈ splitOn '\n' (Reporter.workflow.render r).toList, '\r' ∉ l) ∧
      (splitOn '\n' (Reporter.workflow.render r).toList).map Notice.ofLine? =
        r.issues.map (some ∘ Notice.ofIssue) ++ r.annotations.map (some ∘ Notice.ofFinding) := by
  have hlines : splitOn '\n' (Reporter.workflow.render r).toList =
      (r.issues.map issueCommand ++ r.annotations.map workflowCommand).map String.toList :=
    splitOn_workflowCommands h
  rw [hlines]
  refine ⟨by simp, fun l hl => ?_, ?_⟩
  · obtain ⟨s, hs, rfl⟩ := List.mem_map.mp hl
    rcases List.mem_append.mp hs with hs | hs
    · obtain ⟨i, -, rfl⟩ := List.mem_map.mp hs
      exact notMem_issueCommand (Or.inl rfl) i
    · obtain ⟨a, -, rfl⟩ := List.mem_map.mp hs
      exact notMem_workflowCommand (Or.inl rfl) a
  · have hissues : (r.issues.map issueCommand).map (Notice.ofLine? ∘ String.toList) =
        r.issues.map (some ∘ Notice.ofIssue) := by
      rw [List.map_map]
      refine List.map_congr_left fun i _ => ?_
      rw [Function.comp_apply, Function.comp_apply, Notice.ofLine?_issueCommand]
      rfl
    have hfindings : (r.annotations.map workflowCommand).map (Notice.ofLine? ∘ String.toList) =
        r.annotations.map (some ∘ Notice.ofFinding) := by
      rw [List.map_map]
      refine List.map_congr_left fun a _ => ?_
      rw [Function.comp_apply, Function.comp_apply, Notice.ofLine?_workflowCommand]
      rfl
    rw [List.map_map, List.map_append, hissues, hfindings]

/-- A result whose texts imitate commands, escapes and properties. -/
def hostileResult : LintResult where
  annotations := [⟨"a::b", "x,line=9:%0A.txt", 2, 2, 4, 7, "one\r\n::error::two %250D", .warning, "a::b"⟩]
  issues := [⟨.droppedRule, "a", ":file=x::\n"⟩]
  filesScanned := 1

theorem hostileResult_decodes :
    (hostileResult.issues ≠ [] ∨ hostileResult.annotations ≠ []) ∧
      (splitOn '\n' (Reporter.workflow.render hostileResult).toList).length = 2 ∧
      (splitOn '\n' (Reporter.workflow.render hostileResult).toList).map Notice.ofLine? =
        [some ⟨.warning, none, none, none, none, none, none, ":file=x::\n"⟩,
          some ⟨.warning, some "x,line=9:%0A.txt", some 2, some 2, some 4, some 7, some "a::b",
            "one\r\n::error::two %250D"⟩] := by
  have hsome : hostileResult.issues ≠ [] ∨ hostileResult.annotations ≠ [] := by decide
  obtain ⟨hlength, -, hlines⟩ := workflow_report_decodes hostileResult hsome
  exact ⟨hsome, hlength, hlines⟩

end PatternLint.Report
