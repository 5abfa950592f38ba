import Mathlib.Data.List.TakeWhile
import ScopeHoist.Name.Legal
import ScopeHoist.Proofs.Pool

/-!
# Legal names and their stems

Whatever text a name is made from, it comes out legal, and what is legal already comes out as it is.
A number behind a legal name keeps it legal, and the stem of a numbered name is what was numbered.
Taking a number off is not as harmless: what is left may be a reserved word.
-/

set_option autoImplicit false

namespace ScopeHoist

/-! ## Legal spelling -/

/-- Spelled like a plain identifier, but maybe a reserved word. -/
def Spelled (name : String) : Prop :=
  ∃ first rest, name.toList = first :: rest ∧ isLegalChar first = true ∧ first.isDigit = false ∧
    ∀ c ∈ rest, isLegalChar c = true

theorem isLegalName_iff (name : String) :
    isLegalName name = true ↔ Spelled name ∧ isReservedWord name = false := by
  unfold isLegalName Spelled
  cases hname : name.toList with
  | nil => simp
  | cons first rest => simp [and_assoc]

theorem isReservedWord_iff (name : String) : isReservedWord name = true ↔ name ∈ reservedWords :=
  List.contains_iff_mem

theorem not_reserved_of_dollar (name : String) (h : '$' ∈ name.toList) :
    isReservedWord name = false := by
  have hnone : ∀ word ∈ reservedWords, '$' ∉ word.toList := by decide +kernel
  rw [← Bool.not_eq_true, isReservedWord_iff]
  exact fun hmem => hnone name hmem h

theorem not_reserved_of_underscore (rest : List Char) :
    isReservedWord (String.ofList ('_' :: rest)) = false := by
  have hnone : ∀ word ∈ reservedWords, word.toList.head? ≠ some '_' := by decide +kernel
  rw [← Bool.not_eq_true, isReservedWord_iff]
  exact fun hmem => hnone _ hmem (by simp)

theorem isLegalName_setOff (chars : List Char) (h : ∀ c ∈ chars, isLegalChar c = true) :
    isLegalName (String.ofList (setOff chars)) = true := by
  rw [isLegalName_iff]
  cases chars with
  | nil => exact ⟨⟨'_', [], by simp [setOff], rfl, rfl, by simp⟩, not_reserved_of_underscore []⟩
  | cons first rest =>
    by_cases hoff : (first.isDigit || isReservedWord (String.ofList (first :: rest))) = true
    · rw [setOff, if_pos hoff]
      exact ⟨⟨'_', first :: rest, by simp, rfl, rfl, h⟩, not_reserved_of_underscore _⟩
    · rw [setOff, if_neg hoff]
      rw [Bool.not_eq_true, Bool.or_eq_false_iff] at hoff
      exact ⟨⟨first, rest, by simp, h first List.mem_cons_self, hoff.1,
        fun c hc => h c (List.mem_cons_of_mem _ hc)⟩, hoff.2⟩

theorem isLegalName_legalName (raw : String) : isLegalName (legalName raw) = true := by
  apply isLegalName_setOff
  intro c hc
  obtain ⟨raised, -, rfl⟩ := List.mem_map.mp hc
  split
  · assumption
  · rfl

/-! ## Legal names stay as they are -/

theorem Spelled.all_legal {name : String} (h : Spelled name) :
    ∀ c ∈ name.toList, isLegalChar c = true := by
  obtain ⟨first, rest, hname, hfirst, -, hrest⟩ := h
  simpa [hname, hfirst] using hrest

theorem camelCase_of_not_mem (chars : List Char) (h : '-' ∉ chars) : camelCase chars = chars := by
  fun_induction camelCase chars with
  | case1 c rest hword ih => simp at h
  | case2 c rest hword ih => simp at h
  | case3 c rest hpattern ih => rw [ih fun hrest => h (List.mem_cons_of_mem _ hrest)]
  | case4 => rfl

theorem setOff_of_isLegalName (name : String) (h : isLegalName name = true) :
    setOff name.toList = name.toList := by
  obtain ⟨⟨first, rest, hname, -, hdigit, -⟩, hword⟩ := (isLegalName_iff name).mp h
  have hsame : String.ofList (first :: rest) = name := by rw [← hname, String.ofList_toList]
  rw [hname, setOff, hsame, hdigit, hword]
  rfl

/-- No step has anything to do: a legal name has no hyphen to drop, no character to replace, and
nothing that has to be set off. -/
theorem legalName_of_isLegalName (name : String) (h : isLegalName name = true) :
    legalName name = name := by
  have hlegal := ((isLegalName_iff name).mp h).1.all_legal
  have hhyphen : '-' ∉ name.toList := fun hmem => absurd (hlegal _ hmem) (by decide)
  have hkept : (name.toList.map fun c => if isLegalChar c then c else '_') = name.toList := by
    rw [List.map_congr_left fun c hc => if_pos (hlegal c hc), List.map_id']
  rw [legalName, camelCase_of_not_mem _ hhyphen, hkept, setOff_of_isLegalName name h,
    String.ofList_toList]

/-- Making a name legal is a projection: its results are the legal names, which are all it leaves as
they are, and making a result legal changes nothing. -/
theorem legalName_projects (raw : String) :
    isLegalName (legalName raw) = true ∧ (isLegalName raw = true ↔ legalName raw = raw) ∧
      legalName (legalName raw) = legalName raw := by
  have hlegal := isLegalName_legalName raw
  refine ⟨hlegal, ⟨legalName_of_isLegalName raw, fun hsame => ?_⟩, ?_⟩
  · rwa [hsame] at hlegal
  · exact legalName_of_isLegalName _ hlegal

example : ["-3d", "lodash-es", "new", ""].map legalName = ["_3d", "lodashEs", "_new", "_"] := by
  decide +kernel

/-! ## Spellings that begin alike -/

theorem Spelled.ne_empty {name : String} (h : Spelled name) : name ≠ "" := by
  obtain ⟨first, rest, hname, -⟩ := h
  rintro rfl
  simp at hname

theorem Spelled.of_prefix {name start : String} (h : Spelled name) (hne : start ≠ "")
    (more : List Char) (hname : name.toList = start.toList ++ more) : Spelled start := by
  obtain ⟨first, rest, hchars, hfirst, hdigit, hrest⟩ := h
  cases hstart : start.toList with
  | nil => exact absurd (String.toList_inj.mp (hstart.trans String.toList_empty.symm)) hne
  | cons c cs =>
    rw [hstart, hchars, List.cons_append, List.cons.injEq] at hname
    obtain ⟨rfl, rfl⟩ := hname
    exact ⟨first, cs, hstart, hfirst, hdigit, fun c hc => hrest c (List.mem_append_left _ hc)⟩

/-! ## Numbers behind names -/

theorem numbered_toList (base : String) (k : Nat) :
    (numbered base k).toList = base.toList ++ '$' :: Nat.toDigits 10 k := by
  simp [numbered, Nat.toList_repr]

theorem isLegalChar_of_isDigit (c : Char) (h : c.isDigit = true) : isLegalChar c = true := by
  simp [isLegalChar, Char.isAlphanum, h]

theorem isDigit_of_mem_toDigits (k : Nat) (c : Char) (h : c ∈ Nat.toDigits 10 k) :
    c.isDigit = true := Nat.isDigit_of_mem_toDigits (by decide) (by decide) h

/-- A number makes a legal name even of a reserved word. -/
theorem Spelled.isLegalName_numbered {base : String} (h : Spelled base) (k : Nat) :
    isLegalName (numbered base k) = true := by
  rw [isLegalName_iff]
  refine ⟨?_, not_reserved_of_dollar _ (by simp [numbered_toList])⟩
  obtain ⟨first, rest, hchars, hfirst, hdigit, hrest⟩ := h
  refine ⟨first, rest ++ '$' :: Nat.toDigits 10 k, by simp [numbered_toList, hchars], hfirst,
    hdigit, fun c hc => ?_⟩
  rcases List.mem_append.mp hc with hc | hc
  · exact hrest c hc
  · rcases List.mem_cons.mp hc with rfl | hc
    · rfl
    · exact isLegalChar_of_isDigit c (isDigit_of_mem_toDigits k c hc)

/-! ## Stems -/

theorem stem_cases (name : String) :
    stem name = name ∨
      stem name ≠ "" ∧ ∃ digits ≠ [], (∀ c ∈ digits, c.isDigit = true) ∧
        name.toList = (stem name).toList ++ '$' :: digits := by
  unfold stem
  dsimp only
  split
  · rename_i base hrest
    split
    · exact .inl rfl
    · rename_i hkept
      rw [Bool.not_eq_true, Bool.or_eq_false_iff] at hkept
      have hback : name.toList.reverse =
          name.toList.reverse.takeWhile Char.isDigit ++ '$' :: base := by
        rw [← hrest, List.takeWhile_append_dropWhile]
      refine .inr ⟨fun hempty => ?_, (name.toList.reverse.takeWhile Char.isDigit).reverse,
        fun hnone => ?_, fun c hc => ?_, ?_⟩
      · have hnil : base.reverse = [] := by simpa using congrArg String.toList hempty
        simp [List.reverse_eq_nil_iff.mp hnil] at hkept
      · simp [List.reverse_eq_nil_iff.mp hnone] at hkept
      · exact List.mem_takeWhile_imp (List.mem_reverse.mp hc)
      · rw [String.toList_ofList]
        simpa using congrArg List.reverse hback
  · exact .inl rfl

theorem Spelled.stem {name : String} (h : Spelled name) : Spelled (stem name) := by
  rcases stem_cases name with heq | ⟨hne, _, -, -, hname⟩
  · rwa [heq]
  · exact h.of_prefix hne _ hname

theorem stem_numbered (base : String) (k : Nat) (h : base ≠ "") :
    stem (numbered base k) = base := by
  have hback : (numbered base k).toList.reverse =
      (Nat.toDigits 10 k).reverse ++ '$' :: base.toList.reverse := by
    simp [numbered_toList]
  have hdigits : ∀ c ∈ (Nat.toDigits 10 k).reverse, c.isDigit = true := fun c hc =>
    isDigit_of_mem_toDigits k c (List.mem_reverse.mp hc)
  have hsome : (Nat.toDigits 10 k).reverse.isEmpty = false := by
    simp [Nat.toDigits_ne_nil]
  have hbase : base.toList.reverse.isEmpty = false := by
    simpa using h
  have hdollar : ('$').isDigit = false := rfl
  unfold stem
  dsimp only
  rw [hback, List.dropWhile_append_of_pos hdigits, List.takeWhile_append_of_pos hdigits,
    List.dropWhile_cons, List.takeWhile_cons, hdollar]
  simp only [Bool.false_eq_true, if_false, List.append_nil, hsome, hbase, Bool.or_self,
    List.reverse_reverse, String.ofList_toList]

end ScopeHoist
