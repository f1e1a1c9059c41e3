import CodeGraph.Imports
import CodeGraph.Proofs.Files.Places
import CodeGraph.Proofs.Text.Trimming

/-! # Cleaning the texts of imports

The text of an import is cleaned before it is read: white space, semicolons, a query and a fragment
are taken away. White space is taken from the start, and everything else from the end
(`Imports.cleanSpecifier_eq`). A beginning with nothing to be taken away at its own ends is kept,
whatever follows it (`Imports.Core.cleanSpecifier_append`); texts of solid characters are of this
kind (`Imports.Solid.core`). Plain names are solid and can be parts of a path
(`Imports.PlainName.solid`, `Imports.PlainName.proper`), and what begins as such a name still does
so when it is cleaned (`Imports.BeginsPlain.cleanEnd`). -/

namespace CodeGraph

/-! ## Solid characters and plain names -/

namespace Imports

/-- Whether a character is never taken away when the text of an import is cleaned. -/
def isSolid (c : Char) : Bool := !Text.isBlank c && c != ';' && c != '?' && c != '#'

/-- Whether a character can stand in a plain name. -/
def isPlain (c : Char) : Bool := isSolid c && c != '.' && c != '/'

/-- A plain name: it has no dots and slashes in it, and nothing that cleaning could take away. -/
structure PlainName (name : String) : Prop where
  ne_empty : name ≠ ""
  plain : ∀ c ∈ name.toList, isPlain c

/-- A text of which cleaning can take nothing away. -/
def Solid (text : String) : Prop := ∀ c ∈ text.toList, isSolid c

/-- A text that begins as a plain name does. -/
def BeginsPlain (text : String) : Prop := ∃ c cs, text.toList = c :: cs ∧ isPlain c

/-- A character is solid if it is none of those that cleaning looks for. -/
theorem isSolid_iff {c : Char} :
    isSolid c ↔ Text.isBlank c = false ∧ c ≠ ';' ∧ c ≠ '?' ∧ c ≠ '#' := by
  simp [isSolid, and_assoc]

/-- A character of a plain name is solid. -/
theorem isSolid_of_isPlain {c : Char} (h : isPlain c) : isSolid c := by
  simp only [isPlain, Bool.and_eq_true] at h
  exact h.1.1

/-- Cleaning takes no dot away. -/
theorem solid_dot : Solid "." := by simp [Solid, isSolid, Text.isBlank]

/-- Cleaning takes no slash away. -/
theorem solid_slash : Solid "/" := by simp [Solid, isSolid, Text.isBlank]

/-- Solid texts may be joined. -/
theorem Solid.append {a b : String} (ha : Solid a) (hb : Solid b) : Solid (a ++ b) := by
  intro c hc
  rw [String.toList_append, List.mem_append] at hc
  exact hc.elim (ha c) (hb c)

/-- Solid texts joined by a solid mark are solid. -/
theorem solid_intercalate {mark : String} {parts : List String} (hmark : Solid mark)
    (hparts : ∀ part ∈ parts, Solid part) : Solid (mark.intercalate parts) := by
  induction parts with
  | nil => simp [Solid]
  | cons part parts ih =>
    rw [List.forall_mem_cons] at hparts
    by_cases hnil : parts = []
    · rw [hnil, String.intercalate_singleton]
      exact hparts.1
    · rw [String.intercalate_cons_of_ne_nil hnil]
      exact (hparts.1.append hmark).append (ih hparts.2)

/-- Any number of dots is solid. -/
theorem solid_dots (n : Nat) : Solid (String.ofList (List.replicate n '.')) := by
  intro c hc
  rw [String.toList_ofList] at hc
  rw [List.eq_of_mem_replicate hc]
  rfl

namespace PlainName

variable {name : String}

/-- A plain name is solid. -/
theorem solid (h : PlainName name) : Solid name :=
  fun c hc => isSolid_of_isPlain (h.plain c hc)

/-- A character that is not plain does not stand in a plain name. -/
theorem not_mem (h : PlainName name) {c : Char} (hc : isPlain c = false) : c ∉ name.toList := by
  intro hmem
  rw [h.plain c hmem] at hc
  cases hc

/-- A plain name is a proper one: it is neither empty nor made of dots, and no slash stands in
it. -/
theorem proper (h : PlainName name) : ProperName name := by
  have hdot : '.' ∉ name.toList := h.not_mem rfl
  refine ⟨h.ne_empty, ?_, ?_, h.not_mem rfl⟩
  · rintro rfl
    exact hdot (by decide)
  · rintro rfl
    exact hdot (by decide)

end PlainName

end Imports

/-! ## Cleaning -/

namespace Imports

variable {start : String}

/-- **A text of which cleaning takes nothing away**, whatever follows it: it does not begin with
white space, it does not end with white space or a semicolon, and no query or fragment begins in
it. -/
structure Core (text : String) : Prop where
  first : ∀ c ∈ text.toList.head?, Text.isBlank c = false
  last : ∀ c ∈ text.toList.getLast?, Text.isBlank c = false ∧ c ≠ ';'
  unmarked : ∀ c ∈ text.toList, c ≠ '?' ∧ c ≠ '#'

/-- A solid text is a `Core`: it has none of the characters that cleaning looks for, at its ends or
inside. -/
theorem Solid.core {text : String} (h : Solid text) : Core text where
  first c hc := (isSolid_iff.1 (h c (List.mem_of_head? hc))).1
  last c hc := by
    obtain ⟨hblank, hsemicolon, -⟩ := isSolid_iff.1 (h c (List.mem_of_getLast? hc))
    exact ⟨hblank, hsemicolon⟩
  unmarked c hc := (isSolid_iff.1 (h c hc)).2.2

/-- A text up to where a query or fragment begins. -/
def beforeQuery (text : String) : String :=
  String.ofList (text.toList.takeWhile fun c => c != '?' && c != '#')

/-- What cleaning leaves of a text if it takes away from its end alone. -/
def cleanEnd (text : String) : String :=
  Text.trimEnd (beforeQuery (Text.trimEnd (Text.trimEndWhere (· == ';') (Text.trimEnd text))))

/-- Nothing is left of nothing. -/
@[simp] theorem cleanEnd_empty : cleanEnd "" = "" := rfl

/-- `beforeQuery` takes away from what follows a text, if no query or fragment begins in it. -/
theorem beforeQuery_append (h : ∀ c ∈ start.toList, c ≠ '?' ∧ c ≠ '#') (rest : String) :
    beforeQuery (start ++ rest) = start ++ beforeQuery rest := by
  have hall : ∀ c ∈ start.toList, (c != '?' && c != '#') = true := by
    intro c hc
    simp [h c hc]
  rw [beforeQuery, String.toList_append, List.takeWhile_append_of_pos hall, String.ofList_append,
    String.ofList_toList]
  rfl

/-- What follows the text before a query is empty or begins with a mark. -/
theorem exists_append_beforeQuery (text : String) :
    ∃ query : String, text = beforeQuery text ++ query ∧
      ∀ c ∈ query.toList.head?, c = '?' ∨ c = '#' := by
  refine ⟨String.ofList (text.toList.dropWhile fun c => c != '?' && c != '#'), ?_, ?_⟩
  · rw [← String.toList_inj, beforeQuery]
    simp
  · intro c hc
    rw [String.toList_ofList, Option.mem_def] at hc
    have hstop := List.head?_dropWhile_not (fun c => c != '?' && c != '#') text.toList
    rw [hc] at hstop
    simpa [imp_iff_not_or] using hstop

/-- What stands before a query begins as the whole text does. -/
theorem head?_beforeQuery {p : Char → Bool} {text : String}
    (h : ∀ c ∈ text.toList.head?, p c = false) :
    ∀ c ∈ (beforeQuery text).toList.head?, p c = false := by
  obtain ⟨query, htext, -⟩ := exists_append_beforeQuery text
  rw [htext] at h
  exact Text.head?_of_append h

/-- What is left when the end is cleaned begins as the whole text does. -/
theorem head?_cleanEnd {p : Char → Bool} {text : String}
    (h : ∀ c ∈ text.toList.head?, p c = false) :
    ∀ c ∈ (cleanEnd text).toList.head?, p c = false :=
  Text.head?_trimEndWhere (head?_beforeQuery (Text.head?_trimEndWhere (Text.head?_trimEndWhere
    (Text.head?_trimEndWhere h))))

/-- `cleanEnd` takes away from what follows a `Core` text alone. -/
theorem Core.cleanEnd_append (h : Core start) (rest : String) :
    cleanEnd (start ++ rest) = start ++ cleanEnd rest := by
  have hblank : ∀ text, Text.trimEnd (start ++ text) = start ++ Text.trimEnd text :=
    Text.trimEndWhere_append_of_getLast? fun c hc => (h.last c hc).1
  have hsemicolons : ∀ text, Text.trimEndWhere (· == ';') (start ++ text)
      = start ++ Text.trimEndWhere (· == ';') text :=
    Text.trimEndWhere_append_of_getLast? fun c hc => beq_eq_false_iff_ne.2 (h.last c hc).2
  rw [cleanEnd, hblank, hsemicolons, hblank, beforeQuery_append h.unmarked, hblank, cleanEnd]

/-- **Cleaning takes away white space at the start**, and everything else from the end. -/
theorem cleanSpecifier_eq (text : String) :
    cleanSpecifier text
      = if cleanEnd (Text.trimStart text) = "" then none
        else some (cleanEnd (Text.trimStart text)) := by
  have hquery : ∀ text, String.ofList (text.toList.takeWhile fun c => c != '?' && c != '#')
      = beforeQuery text := fun _ => rfl
  have htrim : Text.trim text = Text.trimEnd (Text.trimStart text) := Text.trim_eq text
  -- from then on no text begins with white space
  have hfirst : ∀ c ∈ (Text.trimStart text).toList.head?, Text.isBlank c = false :=
    Text.head?_trimStartWhere _ _
  have hsemicolons : ∀ c ∈ (Text.trimEndWhere (· == ';')
      (Text.trimEnd (Text.trimStart text))).toList.head?, Text.isBlank c = false :=
    Text.head?_trimEndWhere (Text.head?_trimEndWhere hfirst)
  have hbefore : ∀ c ∈ (beforeQuery (Text.trimEnd (Text.trimEndWhere (· == ';')
      (Text.trimEnd (Text.trimStart text))))).toList.head?, Text.isBlank c = false :=
    head?_beforeQuery (Text.head?_trimEndWhere hsemicolons)
  simp only [cleanSpecifier, hquery, htrim, Text.trim_of_head? hsemicolons,
    Text.trim_of_head? hbefore, String.isEmpty_iff]
  rfl

/-- **Cleaning keeps a beginning that is a core.** -/
theorem Core.cleanSpecifier_append (hne : start ≠ "") (h : Core start) (rest : String) :
    cleanSpecifier (start ++ rest) = some (start ++ cleanEnd rest) := by
  have hstart : Text.trimStart (start ++ rest) = start ++ rest := by
    obtain ⟨c, cs, hcs⟩ := Text.exists_toList_eq_cons hne
    refine Text.trimStartWhere_eq_self fun d hd => h.first d ?_
    rw [String.toList_append, hcs, List.cons_append, List.head?_cons] at hd
    rwa [hcs]
  rw [cleanSpecifier_eq, hstart, h.cleanEnd_append, if_neg]
  simp [hne]

/-- **Cleaning a specifier that begins solid** keeps the beginning and cleans the end of what
follows. -/
theorem cleanSpecifier_append (hne : start ≠ "") (h : Solid start) (rest : String) :
    cleanSpecifier (start ++ rest) = some (start ++ cleanEnd rest) :=
  h.core.cleanSpecifier_append hne rest

/-- A text that begins as a plain name does so after it was cleaned. -/
theorem BeginsPlain.cleanEnd {text : String} (h : BeginsPlain text) :
    BeginsPlain (cleanEnd text) := by
  obtain ⟨c, cs, hcs, hplain⟩ := h
  have htext : text = String.ofList [c] ++ String.ofList cs := by
    rw [← String.toList_inj, hcs]
    simp
  have hsolid : Solid (String.ofList [c]) := by
    intro d hd
    rw [String.toList_ofList, List.mem_singleton] at hd
    exact hd ▸ isSolid_of_isPlain hplain
  refine ⟨c, (Imports.cleanEnd (String.ofList cs)).toList, ?_, hplain⟩
  rw [htext, hsolid.core.cleanEnd_append]
  simp

/-- What begins with a plain name begins plainly. -/
theorem PlainName.beginsPlain_append {name : String} (h : PlainName name) (rest : String) :
    BeginsPlain (name ++ rest) := by
  obtain ⟨c, cs, hcs⟩ := Text.exists_toList_eq_cons h.ne_empty
  exact ⟨c, cs ++ rest.toList, by simp [hcs], h.plain c (by simp [hcs])⟩

/-- What begins with plain names joined by a mark begins plainly. -/
theorem beginsPlain_intercalate {parts : List String} (h : ∀ part ∈ parts, PlainName part)
    (hne : parts ≠ []) (mark rest : String) : BeginsPlain (mark.intercalate parts ++ rest) := by
  obtain ⟨part, parts, rfl⟩ := List.exists_cons_of_ne_nil hne
  have hpart := h part List.mem_cons_self
  by_cases hnil : parts = []
  · rw [hnil, String.intercalate_singleton]
    exact hpart.beginsPlain_append rest
  · rw [String.intercalate_cons_of_ne_nil hnil, String.append_assoc, String.append_assoc]
    exact hpart.beginsPlain_append _

end Imports

end CodeGraph
