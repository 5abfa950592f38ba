import Mathlib.Data.List.Forall2
import ScopeHoist.Print.Page

/-!
# Two pages side by side

One page is within another one if it holds no more text and both go on alike: each text that is
printed on both costs the first no more than the second. Pages without comments stay that way when
the same is printed on both, or something shorter on the first.
-/

set_option autoImplicit false

namespace ScopeHoist

namespace Page

def size (page : Page) : Nat := page.text.utf8ByteSize

def endedSize (page : Page) : Nat := page.size + if page.atLineStart then 0 else 1

/-- What a page has become, if text was added to it and nothing else changed for good. -/
structure Grows (before after : Page) : Prop where
  size : before.size ≤ after.size
  ended : before.endedSize ≤ after.endedSize
  indent : after.indent = before.indent
  compact : after.compact = before.compact

/-- A page that holds no more than another one, both without comments. A margin that is to come on
the first is to come on the second as well, if it is any. -/
structure Within (page other : Page) : Prop where
  size : page.size ≤ other.size
  ended : page.endedSize ≤ other.endedSize
  margin : page.compact = false → page.indent ≠ 0 → page.atLineStart = true →
    other.atLineStart = true
  indent : page.indent = other.indent
  compact : page.compact = other.compact
  comments : page.comments = .none
  comments' : other.comments = .none

theorem Within.refl {page : Page} (h : page.comments = .none) : page.Within page :=
  ⟨Nat.le_refl _, Nat.le_refl _, fun _ _ hstart => hstart, rfl, rfl, h, h⟩

theorem Grows.refl (page : Page) : page.Grows page := ⟨Nat.le_refl _, Nat.le_refl _, rfl, rfl⟩

theorem Grows.trans {first second third : Page} (h : first.Grows second)
    (h' : second.Grows third) : first.Grows third :=
  ⟨Nat.le_trans h.size h'.size, Nat.le_trans h.ended h'.ended, h'.indent.trans h.indent,
    h'.compact.trans h.compact⟩

theorem endedSize_of_start {page : Page} (h : page.atLineStart = true) :
    page.endedSize = page.size := by simp [endedSize, h]

theorem endedSize_of_text {page : Page} (h : page.atLineStart = false) :
    page.endedSize = page.size + 1 := by simp [endedSize, h]

theorem size_le_endedSize (page : Page) : page.size ≤ page.endedSize := Nat.le_add_right _ _

theorem endedSize_le (page : Page) : page.endedSize ≤ page.size + 1 := by
  unfold endedSize
  split <;> omega

def withText (page : Page) (text : String) : Page :=
  { page with text := page.text ++ page.margin ++ text, atLineStart := false }

def withBreak (page : Page) : Page :=
  if page.atLineStart then page else { page with text := page.text ++ "\n", atLineStart := true }

@[simp] theorem withText_atLineStart (page : Page) (text : String) :
    (page.withText text).atLineStart = false := rfl

theorem withText_size (page : Page) (text : String) :
    (page.withText text).size =
      page.size + page.margin.utf8ByteSize + text.utf8ByteSize := by
  simp only [withText, size, String.utf8ByteSize_append]

theorem withText_endedSize (page : Page) (text : String) :
    (page.withText text).endedSize =
      page.size + page.margin.utf8ByteSize + text.utf8ByteSize + 1 := by
  rw [endedSize_of_text (page.withText_atLineStart text), withText_size]

theorem withText_withText (page : Page) (first second : String) :
    (page.withText first).withText second = page.withText (first ++ second) := by
  have hmargin : (page.withText first).margin = "" := rfl
  rw [withText, hmargin]
  simp only [withText, String.append_empty, String.append_assoc]

@[simp] theorem withBreak_indent (page : Page) : page.withBreak.indent = page.indent := by
  unfold withBreak
  split <;> rfl

@[simp] theorem withBreak_compact (page : Page) : page.withBreak.compact = page.compact := by
  unfold withBreak
  split <;> rfl

@[simp] theorem withBreak_comments (page : Page) : page.withBreak.comments = page.comments := by
  unfold withBreak
  split <;> rfl

@[simp] theorem withBreak_atLineStart (page : Page) : page.withBreak.atLineStart = true := by
  unfold withBreak
  split
  · assumption
  · rfl

theorem withBreak_size (page : Page) : page.withBreak.size = page.endedSize := by
  unfold withBreak
  split
  · rename_i h
    rw [endedSize_of_start h]
  · rename_i h
    rw [endedSize_of_text (by simpa using h)]
    exact String.utf8ByteSize_append

theorem withBreak_endedSize (page : Page) : page.withBreak.endedSize = page.endedSize := by
  rw [endedSize_of_start page.withBreak_atLineStart, withBreak_size]

theorem grows_withText (page : Page) (text : String) : page.Grows (page.withText text) := by
  refine ⟨?_, ?_, rfl, rfl⟩
  · rw [withText_size, Nat.add_assoc]
    exact Nat.le_add_right _ _
  · have hended := page.endedSize_le
    rw [withText_endedSize]
    omega

theorem grows_withBreak (page : Page) : page.Grows page.withBreak :=
  ⟨withBreak_size page ▸ page.size_le_endedSize, Nat.le_of_eq (withBreak_endedSize page).symm,
    by simp, by simp⟩

namespace Within

variable {page other : Page} (h : page.Within other)
include h

theorem margin_le : page.margin.utf8ByteSize ≤ other.margin.utf8ByteSize := by
  unfold Page.margin
  rw [← h.compact, ← h.indent]
  cases hcompact : page.compact with
  | true => simp
  | false =>
    cases hstart : page.atLineStart with
    | false => simp
    | true =>
      by_cases hindent : page.indent = 0
      · simp [hindent, indentText]
      · simp [h.margin hcompact hindent hstart]

theorem withText {text text' : String} (htext : text.utf8ByteSize ≤ text'.utf8ByteSize) :
    (page.withText text).Within (other.withText text') := by
  have hmargin := h.margin_le
  have hsize := h.size
  refine ⟨?_, ?_, fun _ _ hstart => ?_, h.indent, h.compact, h.comments, h.comments'⟩
  · rw [withText_size, withText_size]
    omega
  · rw [withText_endedSize, withText_endedSize]
    omega
  · exact absurd hstart Bool.false_ne_true

theorem grows {after : Page} (hgrows : other.Grows after) (hcomments : after.comments = .none)
    (hmargin : page.compact = false → page.indent ≠ 0 → page.atLineStart = true →
      after.atLineStart = true) :
    page.Within after :=
  ⟨Nat.le_trans h.size hgrows.size, Nat.le_trans h.ended hgrows.ended, hmargin,
    h.indent.trans hgrows.indent.symm, h.compact.trans hgrows.compact.symm, h.comments, hcomments⟩

theorem withBreak_grows {after : Page} (hgrows : other.Grows after)
    (hcomments : after.comments = .none) : page.withBreak.Within after.withBreak := by
  have hended := Nat.le_trans h.ended hgrows.ended
  refine ⟨?_, ?_, fun _ _ _ => after.withBreak_atLineStart, ?_, ?_, ?_, ?_⟩
  · rw [withBreak_size, withBreak_size]
    exact hended
  · rw [withBreak_endedSize, withBreak_endedSize]
    exact hended
  · simpa using h.indent.trans hgrows.indent.symm
  · simpa using h.compact.trans hgrows.compact.symm
  · simpa using h.comments
  · simpa using hcomments

theorem withBreak : page.withBreak.Within other.withBreak :=
  h.withBreak_grows (.refl other) h.comments'

end Within

end Page

namespace Printing

theorem run_bind {α β : Type} (action : Printing α) (next : α → Printing β) (page : Page) :
    (action >>= next).run page = (next (action.run page).1).run (action.run page).2 := rfl

theorem run_isCompact (page : Page) : isCompact.run page = (page.compact, page) := rfl

theorem run_optionalBreak (page : Page) :
    optionalBreak.run page = ((), if page.compact then page else page.withBreak) := by
  rw [optionalBreak, run_bind, run_isCompact]
  cases page.compact <;> rfl

/-- Actions with the same answer that keep a page within another, where the second only adds
text. -/
def Within {α : Type} (action other : Printing α) : Prop :=
  ∀ page page' : Page, page.Within page' →
    (action.run page).1 = (other.run page').1 ∧
      (action.run page).2.Within (other.run page').2 ∧ page'.Grows (other.run page').2

/-- An action that does nothing on a page without comments. -/
def Silent (action : Printing Unit) : Prop :=
  ∀ page : Page, page.comments = .none → action.run page = ((), page)

section

variable {α β : Type}

theorem within_pure (value : α) : Within (pure value : Printing α) (pure value) :=
  fun _ page' h => ⟨rfl, h, .refl page'⟩

theorem within_skip : Within skip skip := within_pure ()

theorem within_bind {action other : Printing α} {next next' : α → Printing β}
    (h : Within action other) (hnext : ∀ value, Within (next value) (next' value)) :
    Within (action >>= next) (other >>= next') := by
  intro page page' hpage
  obtain ⟨hvalue, hwithin, hgrows⟩ := h page page' hpage
  rw [run_bind, run_bind, hvalue]
  obtain ⟨hvalue', hwithin', hgrows'⟩ := hnext _ _ _ hwithin
  exact ⟨hvalue', hwithin', hgrows.trans hgrows'⟩

theorem within_seq {action other : Printing Unit} {next next' : Printing β}
    (h : Within action other) (hnext : Within next next') :
    Within (do action; next) (do other; next') :=
  within_bind h fun _ => hnext

/-- What a page without comments takes no notice of can be left out. -/
theorem Silent.within_left {action : Printing Unit} (h : Silent action) {next other : Printing β}
    (hnext : Within next other) : Within (do action; next) other := by
  intro page page' hpage
  have hrun : (do action; next : Printing β).run page = next.run page := by
    rw [run_bind, h page hpage.comments]
  rw [hrun]
  exact hnext page page' hpage

theorem Silent.within_right {action : Printing Unit} (h : Silent action) {next other : Printing β}
    (hnext : Within next other) : Within next (do action; other) := by
  intro page page' hpage
  have hrun : (do action; other : Printing β).run page' = other.run page' := by
    rw [run_bind, h page' hpage.comments']
  rw [hrun]
  exact hnext page page' hpage

theorem Silent.within {action other : Printing Unit} (h : Silent action) (h' : Silent other) :
    Within action other := by
  intro page page' hpage
  rw [h page hpage.comments, h' page' hpage.comments']
  exact ⟨rfl, hpage, .refl page'⟩

theorem within_ite {first first' second second' : Printing α} (condition : Prop)
    [Decidable condition] (h : Within first first') (h' : Within second second') :
    Within (if condition then first else second) (if condition then first' else second') := by
  split
  · exact h
  · exact h'

theorem within_ite_of_eq {first first' second second' : Printing α} {condition condition' : Bool}
    (heq : condition' = condition) (h : Within first first') (h' : Within second second') :
    Within (if condition then first else second)
      (if condition' then first' else second') := by
  rw [heq]
  exact within_ite _ h h'

end

/-! ## Texts and lines -/

theorem within_put {text text' : String} (h : text.utf8ByteSize ≤ text'.utf8ByteSize) :
    Within (put text) (put text') :=
  fun _ page' hpage => ⟨rfl, hpage.withText h, page'.grows_withText text'⟩

theorem within_same (text : String) : Within (put text) (put text) := within_put (Nat.le_refl _)

theorem put_append (first second : String) :
    put (first ++ second) = (do put first; put second) := by
  funext page
  exact congrArg (((), ·)) (page.withText_withText first second).symm

/-- Two texts are no more than longer ones with something between them, since the margin comes in
front of both. -/
theorem within_put_around {first first' text text' : String} {between : Printing Unit}
    (hbetween : Within between between) (hfirst : first.utf8ByteSize ≤ first'.utf8ByteSize)
    (h : text.utf8ByteSize ≤ text'.utf8ByteSize) :
    Within (put (first ++ text)) (do put first'; between; put text') := by
  intro page page' hpage
  have hbegun : (page.withText first).Within (page'.withText first') := hpage.withText hfirst
  obtain ⟨-, hself, hgrows⟩ := hbetween _ _ (Page.Within.refl hbegun.comments')
  have hlast := (hbegun.grows hgrows hself.comments fun _ _ hstart =>
    absurd hstart Bool.false_ne_true).withText h
  rw [Page.withText_withText] at hlast
  exact ⟨rfl, hlast, (page'.grows_withText first').trans (hgrows.trans (Page.grows_withText _ _))⟩

theorem within_put_behind (first : String) {between : Printing Unit}
    (hbetween : Within between between) {text text' : String}
    (h : text.utf8ByteSize ≤ text'.utf8ByteSize) :
    Within (put text) (do put first; between; put text') := by
  have haround : Within (put ("" ++ text)) (do put first; between; put text') :=
    within_put_around hbetween (Nat.zero_le _) h
  rwa [String.empty_append] at haround

theorem within_breakLine : Within breakLine breakLine :=
  fun _ page' hpage => ⟨rfl, hpage.withBreak, page'.grows_withBreak⟩

theorem within_isCompact : Within isCompact isCompact :=
  fun _ page' hpage => ⟨hpage.compact, hpage, .refl page'⟩

theorem within_space : Within space space := within_same " "

theorem within_optionalSpace : Within optionalSpace optionalSpace :=
  within_bind within_isCompact fun _ => within_ite _ (within_same " ") within_skip

theorem within_spaceIf (needed : Bool) : Within (spaceIf needed) (spaceIf needed) :=
  within_ite _ within_space within_optionalSpace

theorem within_optionalBreak : Within optionalBreak optionalBreak :=
  within_bind within_isCompact fun _ => within_ite _ within_breakLine within_skip

def deeper (page : Page) : Page := { page with indent := page.indent + 1 }

theorem run_indented (action : Printing Unit) (page : Page) :
    (indented action).run page = ((), { (action.run (deeper page)).2 with
      indent := (action.run (deeper page)).2.indent - 1 }) := rfl

/-- What is indented goes on alike if no margin is to come in front of it on the first page, unless
one is on the second. -/
theorem indented_within {action other : Printing Unit} {page page' : Page}
    (hpage : page.Within page')
    (hstart : page'.compact = false → page.atLineStart = true → page'.atLineStart = true)
    (h : (deeper page).Within (deeper page') →
      (action.run (deeper page)).2.Within (other.run (deeper page')).2 ∧
        (deeper page').Grows (other.run (deeper page')).2) :
    ((indented action).run page).2.Within ((indented other).run page').2 ∧
      page'.Grows ((indented other).run page').2 := by
  have hdeeper : (deeper page).Within (deeper page') :=
    ⟨hpage.size, hpage.ended, fun hcompact _ => hstart (hpage.compact.symm.trans hcompact),
      congrArg (· + 1) hpage.indent, hpage.compact, hpage.comments, hpage.comments'⟩
  obtain ⟨hwithin, hgrows⟩ := h hdeeper
  have hindent' : (other.run (deeper page')).2.indent = page'.indent + 1 := hgrows.indent
  have hindent := hwithin.indent.trans hindent'
  rw [run_indented, run_indented]
  refine ⟨?_, hgrows.size, hgrows.ended, congrArg (· - 1) hindent', hgrows.compact⟩
  exact ⟨hwithin.size, hwithin.ended, fun hcompact _ => hwithin.margin hcompact (by omega),
    congrArg (· - 1) hwithin.indent, hwithin.compact, hwithin.comments, hwithin.comments'⟩

/-- Actions that keep a page within another one, if lines of the other one have not begun. -/
def LinesWithin (action other : Printing Unit) : Prop :=
  ∀ page page' : Page, page.Within page' →
    (page'.compact = false → page'.atLineStart = true) →
      (action.run page).2.Within (other.run page').2 ∧ page'.Grows (other.run page').2

section

variable {action other : Printing Unit}

theorem Within.linesWithin (h : Within action other) : LinesWithin action other :=
  fun page page' hpage _ => (h page page' hpage).2

theorem within_indented_behind (text : String) (h : Within action other) :
    Within (do put text; indented action) (do put text; indented other) := by
  intro page page' hpage
  obtain ⟨-, hbegun, hgrows⟩ := within_same text page page' hpage
  obtain ⟨hwithin, hgrows'⟩ := indented_within hbegun
    (fun _ hstart => absurd hstart Bool.false_ne_true) fun hdeeper => (h _ _ hdeeper).2
  exact ⟨rfl, hwithin, hgrows.trans hgrows'⟩

theorem atLineStart_optionalBreak (page : Page)
    (hcompact : (optionalBreak.run page).2.compact = false) :
    (optionalBreak.run page).2.atLineStart = true := by
  rw [run_optionalBreak] at hcompact ⊢
  split
  · rename_i hcompact'
    rw [if_pos hcompact', hcompact'] at hcompact
    exact absurd hcompact (by decide)
  · exact page.withBreak_atLineStart

theorem within_indented_lines (h : LinesWithin action other) :
    Within (do optionalBreak; indented action) (do optionalBreak; indented other) := by
  intro page page' hpage
  obtain ⟨-, hbegun, hgrows⟩ := within_optionalBreak page page' hpage
  have hstart := atLineStart_optionalBreak page'
  obtain ⟨hwithin, hgrows'⟩ := indented_within hbegun (fun hcompact _ => hstart hcompact)
    fun hdeeper => h _ _ hdeeper hstart
  exact ⟨rfl, hwithin, hgrows.trans hgrows'⟩

end

/-! ## Comments that are not there -/

theorem silent_leading (position : Nat) : Silent (leading position) := by
  intro page hpage
  unfold leading
  split
  · rfl
  · obtain ⟨text, indent, atLineStart, compact, comments⟩ := page
    obtain rfl : comments = .none := hpage
    rfl

theorem silent_trailing (position : Nat) : Silent (trailing position) := by
  intro page hpage
  unfold trailing
  split
  · rfl
  · obtain ⟨text, indent, atLineStart, compact, comments⟩ := page
    obtain rfl : comments = .none := hpage
    rfl

theorem silent_skip : Silent skip := fun _ _ => rfl

theorem Silent.seq {action next : Printing Unit} (h : Silent action) (hnext : Silent next) :
    Silent (do action; next) := by
  intro page hpage
  rw [run_bind, h page hpage]
  exact hnext page hpage

theorem silent_leadingAtEnd (position : Nat) : Silent (leadingAtEnd position) :=
  (silent_leading position).seq (silent_leading (position - 1))

theorem within_leading (position position' : Nat) : Within (leading position) (leading position') :=
  (silent_leading position).within (silent_leading position')

theorem within_trailing (position position' : Nat) :
    Within (trailing position) (trailing position') :=
  (silent_trailing position).within (silent_trailing position')

theorem within_leadingAtEnd (position position' : Nat) :
    Within (leadingAtEnd position) (leadingAtEnd position') :=
  (silent_leadingAtEnd position).within (silent_leadingAtEnd position')

theorem within_hasLeadingAtEnd (position position' : Nat) :
    Within (hasLeadingAtEnd position) (hasLeadingAtEnd position') := by
  have hrun : ∀ (position : Nat) (page : Page), page.comments = .none →
      (hasLeadingAtEnd position).run page = (false, page) := by
    intro position page hpage
    obtain ⟨text, indent, atLineStart, compact, comments⟩ := page
    obtain rfl : comments = .none := hpage
    exact congrArg (·, _) (Bool.and_false _)
  intro page page' hpage
  rw [hrun _ page hpage.comments, hrun _ page' hpage.comments']
  exact ⟨rfl, hpage, .refl page'⟩

/-! ## Lists -/

theorem ite_seq {α : Type} (condition : Prop) [Decidable condition] (action : Printing Unit)
    (next : Unit → Printing α) :
    (if condition then (do let result ← action; next result) else next ()) =
      (do (if condition then action else skip); next ()) := by
  split <;> rfl

/-- Items of a list that go on alike, wherever they stand in their sources. -/
def ItemsWithin (items items' : List (Span × Printing Unit)) : Prop :=
  List.Forall₂ (fun item item' => Within item.2 item'.2) items items'

theorem silent_beforeSeparator (parentEnd : Nat) (span : Span) :
    Silent (if span.hi != parentEnd then leadingAtEnd span.hi else skip) := by
  split
  · exact silent_leadingAtEnd span.hi
  · exact silent_skip

theorem separated_cons (parentEnd : Nat) (separator last : Printing Unit)
    (item next : Span × Printing Unit) (rest : List (Span × Printing Unit)) :
    separated parentEnd separator last (item :: next :: rest) = (do
      item.2
      (if item.1.hi != parentEnd then leadingAtEnd item.1.hi else skip)
      separator
      separated parentEnd separator last (next :: rest)) := by
  rw [separated]
  · simp only [ite_seq]
  · nofun

theorem within_separated (parentEnd parentEnd' : Nat)
    {separator separator' last last' : Printing Unit} {items items' : List (Span × Printing Unit)}
    (hseparator : Within separator separator') (hlast : Within last last')
    (h : ItemsWithin items items') :
    Within (separated parentEnd separator last items)
      (separated parentEnd' separator' last' items') := by
  induction h with
  | nil => exact within_skip
  | cons hfirst hrest ih =>
    cases hrest with
    | nil =>
      exact within_seq hfirst (within_seq hlast
        ((silent_beforeSeparator _ _).within (silent_beforeSeparator _ _)))
    | cons hsecond hothers =>
      rw [separated_cons, separated_cons]
      exact within_seq hfirst (within_seq
        ((silent_beforeSeparator _ _).within (silent_beforeSeparator _ _))
        (within_seq hseparator ih))

theorem within_comma : Within comma comma := within_seq (within_same ",") within_optionalSpace

theorem within_commaList (parentEnd parentEnd' : Nat) {last last' : Printing Unit}
    {items items' : List (Span × Printing Unit)} (hlast : Within last last')
    (h : ItemsWithin items items') :
    Within (commaList parentEnd items last) (commaList parentEnd' items' last') :=
  within_separated _ _ within_comma hlast h

theorem within_commaLines (parentEnd parentEnd' : Nat) {last last' : Printing Unit}
    {items items' : List (Span × Printing Unit)} (hlast : Within last last')
    (h : ItemsWithin items items') :
    Within (commaLines parentEnd items last) (commaLines parentEnd' items' last') := by
  have hitems := within_separated parentEnd parentEnd'
    (within_seq (within_same ",") within_optionalBreak) hlast h
  have hlines := within_seq (within_indented_lines hitems.linesWithin) within_optionalBreak
  simpa only [commaLines, bind_assoc] using hlines

end Printing

end ScopeHoist
