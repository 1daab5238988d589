import Mathlib.Data.List.Basic
import Mathlib.Data.List.TakeDrop
import Mathlib.Data.List.TakeWhile
import SensorGateway.Text.Blank

/-!
What is cut out of a line.

`Splits` and `Trims` say what the words of a text are, and what is left of it between the blanks at
its ends, without saying how they are found: a text is put together again from gaps of blanks and
from words. `wordsFrom_eq_iff` and `trimChars_eq_iff` are the two cuts in these terms.

Each cut keeps its side of one boundary: what stands in front of it has a property throughout, and
the first character behind it, if there is one, lacks it.
-/

set_option autoImplicit false

namespace SensorGateway.Text

/-! ## Boundaries -/

section Boundary

variable {p : Char → Bool} {front back : List Char}

/-- A longest run with a property is what stands in front of a boundary, and the rest is behind. -/
theorem span_append (hfront : ∀ c ∈ front, p c = true) (hback : ∀ c ∈ back.head?, p c = false) :
    (front ++ back).span p = (front, back) := by
  have hstop : back.takeWhile p = [] ∧ back.dropWhile p = back := by
    rcases back with _ | ⟨c, back⟩
    · exact ⟨rfl, rfl⟩
    · have hc := hback c rfl
      simp [hc]
  rw [List.span_eq_takeWhile_dropWhile, List.takeWhile_append_of_pos hfront,
    List.dropWhile_append_of_pos hfront, hstop.1, hstop.2, List.append_nil]

/-- What is left behind a longest run starts with a character that lacks the property. -/
theorem head?_dropWhile {cs : List Char} : ∀ c ∈ (cs.dropWhile p).head?, p c = false := by
  intro c hc
  have hnot := List.head?_dropWhile_not p cs
  rw [Option.mem_def.mp hc] at hnot
  exact hnot

end Boundary

/-! ## Gaps and words -/

/-- A gap: blanks only, or nothing. -/
def Gap (cs : List Char) : Prop := ∀ c ∈ cs, isBlank c = true

/-- A word: one character or more, and no blank. -/
def Solid (cs : List Char) : Prop := cs ≠ [] ∧ ∀ c ∈ cs, isBlank c = false

instance Solid.decidable (cs : List Char) : Decidable (Solid cs) :=
  decidable_of_iff ((!cs.isEmpty && cs.all fun c => !isBlank c) = true) (by simp [Solid])

theorem Solid.append {cs ds : List Char} (hcs : Solid cs) (hds : Solid ds) : Solid (cs ++ ds) := by
  refine ⟨List.append_ne_nil_of_left_ne_nil hcs.1 ds, fun c hc => ?_⟩
  rcases List.mem_append.mp hc with hc | hc
  · exact hcs.2 c hc
  · exact hds.2 c hc

theorem Solid.not_mem {cs : List Char} (h : Solid cs) {c : Char} (hc : isBlank c = true) :
    c ∉ cs := by
  intro hmem
  rw [h.2 c hmem] at hc
  cases hc

/-- **A text and its words.** Every word stands behind a gap, which may be empty in front of the
first word only: behind a word the text ends, or a blank follows. -/
inductive Splits : List Char → List (List Char) → Prop
  | gap {cs : List Char} (hgap : Gap cs) : Splits cs []
  | word {gap word rest : List Char} {words : List (List Char)} (hgap : Gap gap)
      (hword : Solid word) (hrest : ∀ c ∈ rest.head?, isBlank c = true)
      (hwords : Splits rest words) : Splits (gap ++ word ++ rest) (word :: words)

theorem Splits.solid {cs : List Char} {words : List (List Char)} (h : Splits cs words) :
    ∀ word ∈ words, Solid word := by
  induction h with
  | gap _ => exact fun word hmem => absurd hmem List.not_mem_nil
  | word _ hword _ _ ih =>
    rintro other (_ | ⟨_, hother⟩)
    · exact hword
    · exact ih other hother

/-- One more blank in front leaves the words as they are. -/
theorem Splits.blank {c : Char} {cs : List Char} {words : List (List Char)}
    (hc : isBlank c = true) (h : Splits cs words) : Splits (c :: cs) words := by
  have hcons : ∀ {gap : List Char}, Gap gap → Gap (c :: gap) := by
    rintro gap hgap d (_ | ⟨_, hd⟩)
    · exact hc
    · exact hgap d hd
  cases h with
  | gap hgap => exact .gap (hcons hgap)
  | word hgap hword hrest hwords => exact .word (hcons hgap) hword hrest hwords

/-! ## The words of a text -/

/-- Blanks in front of the first word are passed over. -/
theorem wordsFrom_gap {gap : List Char} (hgap : Gap gap) (rest : List Char) :
    wordsFrom [] (gap ++ rest) = wordsFrom [] rest := by
  induction gap with
  | nil => rfl
  | cons c gap ih =>
    have hc := hgap c List.mem_cons_self
    have hrest := ih fun d hd => hgap d (List.mem_cons_of_mem c hd)
    simp only [List.cons_append, wordsFrom, hc, if_true, hrest, closeWord, List.isEmpty_nil]

/-- The characters of a word are collected, in reverse. -/
theorem wordsFrom_solid {word : List Char} (hword : ∀ c ∈ word, isBlank c = false)
    (front rest : List Char) :
    wordsFrom front (word ++ rest) = wordsFrom (word.reverse ++ front) rest := by
  induction word generalizing front with
  | nil => rfl
  | cons c word ih =>
    have hc := hword c List.mem_cons_self
    have hrest := ih (fun d hd => hword d (List.mem_cons_of_mem c hd)) (c :: front)
    rw [List.cons_append, wordsFrom, hc, if_neg Bool.false_ne_true, hrest, List.reverse_cons,
      List.append_assoc, List.singleton_append]

/-- A word is complete where the text ends or a blank follows. -/
theorem wordsFrom_closed {rest : List Char} (hrest : ∀ c ∈ rest.head?, isBlank c = true)
    (word : List Char) : wordsFrom word rest = closeWord word (wordsFrom [] rest) := by
  rcases rest with _ | ⟨c, rest⟩
  · rfl
  · have hc := hrest c rfl
    simp only [wordsFrom, hc, if_true, closeWord, List.isEmpty_nil]

/-- Closing a word in front of some words leaves those behind them. -/
theorem closeWord_append (word : List Char) (words others : List (List Char)) :
    closeWord word (words ++ others) = closeWord word words ++ others := by
  rw [closeWord, closeWord]
  split
  · rfl
  · rfl

/-- At a blank a text can be cut in two, and so can its words. The induction is on the characters in
front of the blank; there the word begun last is closed, as it is at the end of a text. -/
theorem wordsFrom_append_blank {c : Char} (hc : isBlank c = true) (word cs rest : List Char) :
    wordsFrom word (cs ++ c :: rest) = wordsFrom word cs ++ wordsFrom [] rest := by
  induction cs generalizing word with
  | nil =>
    have hfirst : wordsFrom word (c :: rest) = closeWord word (wordsFrom [] rest) := by
      rw [wordsFrom, if_pos hc]
    rw [List.nil_append, hfirst]
    exact closeWord_append word [] (wordsFrom [] rest)
  | cons d cs ih =>
    simp only [List.cons_append, wordsFrom]
    split
    · rw [ih, closeWord_append]
    · exact ih (d :: word)

theorem wordsFrom_append_gap {gap : List Char} (hgap : Gap gap) (cs : List Char) :
    wordsFrom [] (cs ++ gap) = wordsFrom [] cs := by
  rcases gap with _ | ⟨c, gap⟩
  · rw [List.append_nil]
  · have hrest : wordsFrom [] gap = [] := by
      have h := wordsFrom_gap (fun d hd => hgap d (List.mem_cons_of_mem c hd)) []
      rwa [List.append_nil] at h
    rw [wordsFrom_append_blank (hgap c List.mem_cons_self), hrest, List.append_nil]

/-- The cut finds words that the text splits into. The induction is on the characters to come; the
word begun so far stands in front of them, turned round. -/
theorem splits_wordsFrom {word : List Char} (hword : ∀ c ∈ word, isBlank c = false)
    (cs : List Char) : Splits (word.reverse ++ cs) (wordsFrom word cs) := by
  -- a begun word is closed at a place where the text ends or a blank follows
  have hclose : ∀ {word rest : List Char} {words : List (List Char)},
      (∀ c ∈ word, isBlank c = false) → (∀ c ∈ rest.head?, isBlank c = true) →
      Splits rest words → Splits (word.reverse ++ rest) (closeWord word words) := by
    intro word rest words hword hrest hsplits
    rcases word with _ | ⟨c, word⟩
    · exact hsplits
    · exact @Splits.word [] _ _ _ (fun d hd => absurd hd List.not_mem_nil)
        ⟨by simp, fun d hd => hword d (List.mem_reverse.mp hd)⟩ hrest hsplits
  induction cs generalizing word with
  | nil => exact hclose hword (by simp) (.gap fun d hd => absurd hd List.not_mem_nil)
  | cons c cs ih =>
    rcases hc : isBlank c with _ | _
    · have hnext : ∀ d ∈ c :: word, isBlank d = false := by
        rintro d (_ | ⟨_, hd⟩)
        · exact hc
        · exact hword d hd
      have hsplits := ih hnext
      rw [List.reverse_cons, List.append_assoc, List.singleton_append] at hsplits
      rwa [wordsFrom, hc, if_neg Bool.false_ne_true]
    · have hrest := ih (fun d hd => absurd hd List.not_mem_nil)
      rw [wordsFrom, if_pos hc]
      refine hclose hword ?_ (hrest.blank hc)
      rintro d ⟨⟩
      exact hc

/-- **The cut into words finds the words of the text, and a text has no other words.** -/
theorem wordsFrom_eq_iff {cs : List Char} {words : List (List Char)} :
    wordsFrom [] cs = words ↔ Splits cs words := by
  constructor
  · rintro rfl
    exact splits_wordsFrom (fun c hc => absurd hc List.not_mem_nil) cs
  · intro h
    -- the words are given with their gaps, and the cut runs through these in the same order
    induction h with
    | gap hgap =>
      have hall := wordsFrom_gap hgap []
      rwa [List.append_nil] at hall
    | @word gap word rest words hgap hword hrest _ ih =>
      have hfull : word.reverse.isEmpty = false := by simpa using hword.1
      rw [List.append_assoc, wordsFrom_gap hgap, wordsFrom_solid hword.2, List.append_nil,
        wordsFrom_closed hrest, ih, closeWord, hfull, if_neg Bool.false_ne_true,
        List.reverse_reverse]

/-- A line and its words. -/
def HasWords (line : String) (words : List String) : Prop :=
  Splits line.toList (words.map String.toList)

/-- **The words of a line,** as texts. -/
theorem words_eq_iff {line : String} {ws : List String} : words line = ws ↔ HasWords line ws := by
  rw [words, HasWords, ← wordsFrom_eq_iff]
  constructor
  · rintro rfl
    simp
  · intro h
    rw [h]
    simp

theorem words_of_solid {s : String} (h : Solid s.toList) : words s = [s] := by
  have hgap : Gap [] := fun c hc => absurd hc List.not_mem_nil
  have hsplits := @Splits.word [] s.toList [] [] hgap h (by simp) (.gap hgap)
  rw [List.nil_append, List.append_nil] at hsplits
  exact words_eq_iff.mpr hsplits

theorem words_append_blank {c : Char} (hc : isBlank c = true) (s t : String) :
    words (s ++ String.singleton c ++ t) = words s ++ words t := by
  have hlist : (s ++ String.singleton c ++ t).toList = s.toList ++ c :: t.toList := by simp
  rw [words, words, words, hlist, wordsFrom_append_blank hc, List.map_append]

theorem HasWords.solid {line : String} {ws : List String} (h : HasWords line ws) :
    ∀ word ∈ ws, Solid word.toList :=
  fun _ hmem => Splits.solid h _ (List.mem_map_of_mem hmem)

/-! ## What is left between the blanks at the ends -/

/-- **A text and what trimming leaves of it:** gaps around it are gone, and it neither starts nor
ends with a blank. -/
def Trims (cs kept : List Char) : Prop :=
  ∃ front back, Gap front ∧ Gap back ∧ cs = front ++ kept ++ back
    ∧ (∀ c ∈ kept.head?, isBlank c = false) ∧ ∀ c ∈ kept.getLast?, isBlank c = false

theorem dropBlanks_append {gap rest : List Char} (hgap : Gap gap)
    (hrest : ∀ c ∈ rest.head?, isBlank c = false) : dropBlanks (gap ++ rest) = rest := by
  have hspan := span_append hgap hrest
  rw [List.span_eq_takeWhile_dropWhile] at hspan
  exact congrArg Prod.snd hspan

theorem gap_takeWhile (cs : List Char) : Gap (cs.takeWhile isBlank) :=
  fun _ hc => List.mem_takeWhile_imp hc

theorem Gap.reverse {gap : List Char} (h : Gap gap) : Gap gap.reverse :=
  fun c hc => h c (List.mem_reverse.mp hc)

/-- What the cut leaves is what is between the gaps at the ends. -/
theorem trims_trimChars (cs : List Char) : Trims cs (trimChars cs) := by
  -- the blanks at the end are the first ones of the text turned round
  have hfront : cs = cs.takeWhile isBlank ++ dropBlanks cs := List.takeWhile_append_dropWhile.symm
  have hback : dropBlanks cs
      = trimChars cs ++ ((dropBlanks cs).reverse.takeWhile isBlank).reverse := by
    have h := @List.takeWhile_append_dropWhile _ isBlank (dropBlanks cs).reverse
    rw [trimChars, ← List.reverse_append]
    exact List.reverse_eq_iff.mp h.symm
  refine ⟨cs.takeWhile isBlank, ((dropBlanks cs).reverse.takeWhile isBlank).reverse,
    gap_takeWhile cs, (gap_takeWhile _).reverse, ?_, ?_, ?_⟩
  · rw [List.append_assoc, ← hback]
    exact hfront
  · intro c hc
    -- the head of what is kept is the head of what the first cut leaves
    have hhead : c ∈ (dropBlanks cs).head? := by
      rw [hback]
      exact List.mem_head?_append_of_mem_head? hc
    exact head?_dropWhile c hhead
  · intro c hc
    rw [trimChars, List.getLast?_reverse] at hc
    exact head?_dropWhile c hc

/-- **Trimming leaves what stands between the blanks at the ends, and nothing else does.** -/
theorem trimChars_eq_iff {cs kept : List Char} : trimChars cs = kept ↔ Trims cs kept := by
  constructor
  · rintro rfl
    exact trims_trimChars cs
  · rintro ⟨front, back, hfront, hback, rfl, hhead, hlast⟩
    by_cases hempty : kept = []
    · -- all is blank, and the boundary in front of what is kept is nowhere to be found
      have hgap : Gap (front ++ kept ++ back) := by
        rw [hempty, List.append_nil]
        exact fun c hc => (List.mem_append.mp hc).elim (hfront c) (hback c)
      have hnone : dropBlanks (front ++ kept ++ back) = [] := List.dropWhile_eq_nil_iff.mpr hgap
      rw [trimChars, hnone, hempty]
      rfl
    · have hfirst : ∀ c ∈ (kept ++ back).head?, isBlank c = false := by
        rwa [List.head?_append_of_ne_nil _ hempty]
      have hend : ∀ c ∈ kept.reverse.head?, isBlank c = false := by
        rwa [List.head?_reverse]
      rw [trimChars, List.append_assoc, dropBlanks_append hfront hfirst, List.reverse_append,
        dropBlanks_append hback.reverse hend, List.reverse_reverse]

theorem trimChars_of_solid {word : List Char} (h : Solid word) : trimChars word = word := by
  have hnone : Gap [] := fun c hc => absurd hc List.not_mem_nil
  refine trimChars_eq_iff.mpr ⟨[], [], hnone, hnone, by simp, ?_, ?_⟩
  · exact fun c hc => h.2 c (List.mem_of_head? hc)
  · exact fun c hc => h.2 c (List.mem_of_getLast? hc)

/-- A line and what trimming leaves of it. -/
def TrimsTo (line kept : String) : Prop := Trims line.toList kept.toList

/-- **What trimming leaves of a line,** as a text. -/
theorem trim_eq_iff {line kept : String} : trim line = kept ↔ TrimsTo line kept := by
  rw [trim, TrimsTo, ← trimChars_eq_iff]
  constructor
  · rintro rfl
    simp
  · intro h
    rw [h, String.ofList_toList]

end SensorGateway.Text
