import Mathlib.Data.List.DropRight
import Mathlib.Data.List.Infix

/-!
# Words of a text

A text is a list of letters and blanks.  `join` puts its words together with one blank between two
of them, and `Spaced` says that a text is such a join.

* `join_cons` is the one equation the proofs use; `Spaced.join_eq` and `spaced_join` say that the
  joins are the spaced texts.
* `Spaced.of_infix` and `Spaced.infix_join` are about parts of a text: a part of a spaced text that
  begins and ends with a letter is spaced, and a spaced part of any text is a part of its join.
* `trim` strips the blanks around a text; a trimmed text that has its join inside is the join
  (`join_eq_of_infix`).
-/

namespace Words

variable {α : Type}

/-- What is between the blanks of a text, where it is not empty. -/
def words (isBlank : α → Bool) (text : List α) : List (List α) :=
  (text.splitOnP isBlank).filter (· ≠ [])

/-- The words of a text, joined with single blanks. -/
def join (isBlank : α → Bool) (blank : α) (text : List α) : List α :=
  List.intercalate [blank] (words isBlank text)

/-- A text without the blanks around it. -/
def trim (isBlank : α → Bool) (text : List α) : List α :=
  (text.dropWhile isBlank).rdropWhile isBlank

/-- A text of words with one blank between two of them. -/
inductive Spaced (isBlank : α → Bool) (blank : α) : List α → Prop
  | single {c : α} (letter : isBlank c = false) : Spaced isBlank blank [c]
  | letter {c : α} {text : List α} (letter : isBlank c = false)
      (rest : Spaced isBlank blank text) : Spaced isBlank blank (c :: text)
  | gap {c : α} {text : List α} (letter : isBlank c = false)
      (rest : Spaced isBlank blank text) : Spaced isBlank blank (c :: blank :: text)

/-- A text begins and ends with letters. -/
structure Trimmed (isBlank : α → Bool) (text : List α) : Prop where
  head : ∀ c ∈ text.head?, isBlank c = false
  last : ∀ c ∈ text.getLast?, isBlank c = false

variable {isBlank : α → Bool} {blank : α}

/-! ## Joining -/

theorem words_cons_blank {c : α} {text : List α} (gap : isBlank c) :
    words isBlank (c :: text) = words isBlank text := by
  rw [words, List.splitOnP_cons_eq_if_modifyHead, if_pos gap, List.filter_cons_of_neg (by simp),
    words]

/-- A letter before a blank is the end of a word. -/
theorem words_cons_gap {c d : α} {text : List α} (letter : isBlank c = false) (gap : isBlank d) :
    words isBlank (c :: d :: text) = [c] :: words isBlank text := by
  rw [words, List.splitOnP_cons_eq_if_modifyHead, letter, if_neg Bool.false_ne_true,
    List.splitOnP_cons_eq_if_modifyHead, if_pos gap, List.modifyHead_cons,
    List.filter_cons_of_pos (by simp), words]

/-- A letter before another one belongs to its word. -/
theorem words_cons_letter {c d : α} {text : List α} (letter : isBlank c = false)
    (letter' : isBlank d = false) :
    ∃ word rest, words isBlank (d :: text) = word :: rest ∧
      words isBlank (c :: d :: text) = (c :: word) :: rest := by
  obtain ⟨word, rest, parts⟩ := List.exists_cons_of_ne_nil (List.splitOnP_ne_nil isBlank text)
  refine ⟨d :: word, rest.filter (· ≠ []), ?_, ?_⟩
  · simp [words, List.splitOnP_cons_eq_if_modifyHead, letter', parts]
  · simp [words, List.splitOnP_cons_eq_if_modifyHead, letter, letter', parts]

theorem ne_nil_of_mem_words {text word : List α} (mem : word ∈ words isBlank text) :
    word ≠ [] := by
  simpa using (List.mem_filter.mp mem).2

theorem join_nil : join isBlank blank [] = [] := rfl

theorem join_cons_blank {c : α} {text : List α} (gap : isBlank c) :
    join isBlank blank (c :: text) = join isBlank blank text := by
  rw [join, words_cons_blank gap, join]

/-- Only a text without words has an empty join. -/
theorem join_eq_nil {text : List α} :
    join isBlank blank text = [] ↔ words isBlank text = [] := by
  rw [join]
  cases found : words isBlank text with
  | nil => simp
  | cons word rest =>
    have some : word ≠ [] := ne_nil_of_mem_words (found ▸ List.mem_cons_self)
    cases rest with
    | nil => simpa using some
    | cons next rest => simp [some]

/-- The first letter of a text, and what the join of the rest is put behind it with. -/
theorem join_cons {c : α} {text : List α} (letter : isBlank c = false) :
    join isBlank blank (c :: text) = c ::
      if text.head?.any (!isBlank ·) then join isBlank blank text
      else if join isBlank blank text = [] then []
      else blank :: join isBlank blank text := by
  cases text with
  | nil => simp [join, words, List.splitOnP_cons_eq_if_modifyHead, letter]
  | cons d rest =>
    by_cases gap : isBlank d
    · rw [join_cons_blank gap, if_neg (by simp [gap])]
      split
      · rename_i empty
        rw [join, words_cons_gap letter gap, join_eq_nil.mp empty, List.intercalate_singleton]
      · rename_i some
        rw [join, words_cons_gap letter gap,
          List.intercalate_cons_of_ne_nil fun none => some (join_eq_nil.mpr none), join]
        rfl
    · rw [Bool.not_eq_true] at gap
      obtain ⟨word, words, first, second⟩ := @words_cons_letter _ _ _ _ rest letter gap
      rw [if_pos (by simp [gap]), join, second, join, first]
      cases words with
      | nil => rw [List.intercalate_singleton, List.intercalate_singleton]
      | cons next words => rw [List.intercalate_cons_cons, List.intercalate_cons_cons]; rfl

theorem Spaced.ne_nil {text : List α} (spaced : Spaced isBlank blank text) : text ≠ [] := by
  rintro rfl
  cases spaced

/-- **A join is a text of words with one blank between two of them.** -/
theorem spaced_join (text : List α) :
    join isBlank blank text = [] ∨ Spaced isBlank blank (join isBlank blank text) := by
  induction text with
  | nil => exact .inl join_nil
  | cons c text ih =>
    by_cases gap : isBlank c
    · rwa [join_cons_blank gap]
    · rw [Bool.not_eq_true] at gap
      refine .inr ?_
      rw [join_cons gap]
      rcases ih with none | spaced
      · rw [none, if_pos rfl, ite_self]
        exact .single gap
      · rw [if_neg spaced.ne_nil]
        split
        · exact .letter gap spaced
        · exact .gap gap spaced

/-- A spaced text begins with a letter. -/
theorem Spaced.head {text : List α} (spaced : Spaced isBlank blank text) :
    text.head?.any (!isBlank ·) := by
  cases spaced with
  | single letter => simp [letter]
  | letter letter => simp [letter]
  | gap letter => simp [letter]

/-- What follows a spaced text is joined behind it. -/
theorem Spaced.prefix_join {text : List α} (spaced : Spaced isBlank blank text)
    (separates : isBlank blank) (rest : List α) : text <+: join isBlank blank (text ++ rest) := by
  induction spaced with
  | single letter =>
    rw [List.singleton_append, join_cons letter, List.cons_prefix_cons]
    exact ⟨rfl, List.nil_prefix⟩
  | @letter c text letter spaced ih =>
    obtain ⟨d, text', rfl⟩ := List.exists_cons_of_ne_nil spaced.ne_nil
    rw [List.cons_append, join_cons letter, List.cons_prefix_cons,
      if_pos (by simpa using spaced.head)]
    exact ⟨rfl, ih⟩
  | @gap c text letter spaced ih =>
    rw [List.cons_append, List.cons_append, join_cons letter, List.cons_prefix_cons,
      join_cons_blank separates, if_neg (by simp [separates]), if_neg, List.cons_prefix_cons]
    · exact ⟨rfl, rfl, ih⟩
    · intro none
      rw [none] at ih
      exact spaced.ne_nil (List.prefix_nil.mp ih)

/-- A spaced text is its own join. -/
theorem Spaced.join_eq {text : List α} (spaced : Spaced isBlank blank text)
    (separates : isBlank blank) : join isBlank blank text = text := by
  induction spaced with
  | single letter => rw [join_cons letter]; rfl
  | letter letter spaced ih => rw [join_cons letter, if_pos spaced.head, ih]
  | gap letter spaced ih =>
    rw [join_cons letter, join_cons_blank separates, if_neg (by simp [separates]), ih,
      if_neg spaced.ne_nil]

/-- What comes before a text does not change the end of its join. -/
theorem join_suffix (front text : List α) :
    join isBlank blank text <:+ join isBlank blank (front ++ text) := by
  induction front with
  | nil => exact List.suffix_rfl
  | cons c front ih =>
    rw [List.cons_append]
    by_cases gap : isBlank c
    · rwa [join_cons_blank gap]
    · rw [Bool.not_eq_true] at gap
      rw [join_cons gap]
      split_ifs with starts none
      · exact ih.trans (List.suffix_cons ..)
      · rw [none] at ih
        rw [List.suffix_nil.mp ih]
        exact List.nil_suffix
      · exact ih.trans ((List.suffix_cons ..).trans (List.suffix_cons ..))

/-- **A spaced part of a text is a part of its join.** -/
theorem Spaced.infix_join {part text : List α} (spaced : Spaced isBlank blank part)
    (separates : isBlank blank) (inside : part <:+: text) :
    part <:+: join isBlank blank text := by
  obtain ⟨front, back, rfl⟩ := inside
  rw [List.append_assoc]
  exact (spaced.prefix_join separates back).isInfix.trans (join_suffix front _).isInfix

/-- The letters of a text are those of its join. -/
theorem filter_join (separates : isBlank blank) (text : List α) :
    (join isBlank blank text).filter (!isBlank ·) = text.filter (!isBlank ·) := by
  induction text with
  | nil => rfl
  | cons c text ih =>
    by_cases gap : isBlank c
    · rw [join_cons_blank gap, ih, List.filter_cons_of_neg (by simp [gap])]
    · rw [Bool.not_eq_true] at gap
      rw [join_cons gap, List.filter_cons_of_pos (by simp [gap]),
        List.filter_cons_of_pos (by simp [gap]), ← ih]
      split_ifs with starts none
      · rfl
      · rw [none]
      · rw [List.filter_cons_of_neg (by simp [separates])]

/-- A function that keeps blanks and letters apart commutes with the join. -/
theorem join_map {f : α → α} (same : ∀ c, isBlank (f c) = isBlank c) (fixed : f blank = blank)
    (text : List α) :
    join isBlank blank (text.map f) = (join isBlank blank text).map f := by
  induction text with
  | nil => rfl
  | cons c text ih =>
    have starts : (text.map f).head?.any (!isBlank ·) = text.head?.any (!isBlank ·) := by
      cases text with
      | nil => rfl
      | cons d text => simp [same]
    by_cases gap : isBlank c
    · rw [List.map_cons, join_cons_blank (by rwa [same]), join_cons_blank gap, ih]
    · rw [Bool.not_eq_true] at gap
      rw [List.map_cons, join_cons (by rwa [same]), join_cons gap, ih, starts]
      simp only [List.map_eq_nil_iff, List.map_cons, apply_ite (List.map f), List.map_nil, fixed]

/-! ## Parts of a spaced text -/

/-- The beginning of a spaced text up to a letter is spaced. -/
theorem Spaced.of_isPrefix {part rest : List α} (spaced : Spaced isBlank blank (part ++ rest))
    (separates : isBlank blank) (some : part ≠ []) (last : ∀ c ∈ part.getLast?, isBlank c = false) :
    Spaced isBlank blank part := by
  generalize whole : part ++ rest = text at spaced
  induction spaced generalizing part with
  | @single c letter =>
    match part with
    | d :: part =>
      rw [List.cons_append, List.cons.injEq, List.append_eq_nil_iff] at whole
      obtain ⟨rfl, rfl, -⟩ := whole
      exact .single letter
  | @letter c text letter spaced ih =>
    match part with
    | [d] =>
      obtain rfl : d = c := (List.cons.inj whole).1
      exact .single letter
    | d :: e :: part =>
      rw [List.cons_append, List.cons.injEq] at whole
      obtain ⟨rfl, whole⟩ := whole
      rw [List.getLast?_cons_cons] at last
      exact .letter letter (ih (List.cons_ne_nil _ _) last whole)
  | @gap c text letter spaced ih =>
    match part with
    | [d] =>
      obtain rfl : d = c := (List.cons.inj whole).1
      exact .single letter
    | [d, e] =>
      obtain rfl : e = blank := (List.cons.inj (List.cons.inj whole).2).1
      have isLetter := last e rfl
      rw [separates] at isLetter
      cases isLetter
    | d :: e :: e' :: part =>
      rw [List.cons_append, List.cons_append, List.cons.injEq, List.cons.injEq] at whole
      obtain ⟨rfl, rfl, whole⟩ := whole
      rw [List.getLast?_cons_cons, List.getLast?_cons_cons] at last
      exact .gap letter (ih (List.cons_ne_nil _ _) last whole)

/-- The end of a spaced text from a letter on is spaced. -/
theorem Spaced.of_suffix {front part : List α} (spaced : Spaced isBlank blank (front ++ part))
    (separates : isBlank blank) (some : part ≠ []) (head : ∀ c ∈ part.head?, isBlank c = false) :
    Spaced isBlank blank part := by
  generalize whole : front ++ part = text at spaced
  induction spaced generalizing front with
  | @single c letter =>
    cases front with
    | nil =>
      obtain rfl : part = [c] := whole
      exact .single letter
    | cons d front =>
      exact absurd (List.append_eq_nil_iff.mp (List.cons.inj whole).2).2 some
  | @letter c text letter spaced ih =>
    cases front with
    | nil =>
      obtain rfl : part = c :: text := whole
      exact .letter letter spaced
    | cons d front => exact ih (List.cons.inj whole).2
  | @gap c text letter spaced ih =>
    match front with
    | [] =>
      obtain rfl : part = c :: blank :: text := whole
      exact .gap letter spaced
    | [d] =>
      obtain rfl : part = blank :: text := (List.cons.inj whole).2
      have isLetter := head blank rfl
      rw [separates] at isLetter
      cases isLetter
    | d :: d' :: front => exact ih (List.cons.inj (List.cons.inj whole).2).2

/-- **A part of a spaced text that begins and ends with letters is spaced.** -/
theorem Spaced.of_infix {part text : List α} (spaced : Spaced isBlank blank text)
    (separates : isBlank blank) (some : part ≠ []) (trimmed : Trimmed isBlank part)
    (inside : part <:+: text) : Spaced isBlank blank part := by
  obtain ⟨front, back, rfl⟩ := inside
  rw [List.append_assoc] at spaced
  refine (spaced.of_suffix separates (by simp [some]) ?_).of_isPrefix separates some trimmed.last
  obtain ⟨c, part, rfl⟩ := List.exists_cons_of_ne_nil some
  exact trimmed.head

/-! ## Trimming -/

theorem trimmed_trim (text : List α) : Trimmed isBlank (trim isBlank text) where
  head := by
    intro c mem
    have front : trim isBlank text <+: text.dropWhile isBlank := List.rdropWhile_prefix ..
    obtain ⟨back, whole⟩ := front
    have head := List.head?_dropWhile_not isBlank text
    cases trimmed : trim isBlank text with
    | nil =>
      rw [trimmed] at mem
      cases mem
    | cons d rest =>
      rw [trimmed] at mem whole
      obtain rfl : d = c := Option.some.inj mem
      rw [← whole] at head
      exact head
  last := by
    intro c mem
    obtain ⟨some, rfl⟩ := List.mem_getLast?_eq_getLast mem
    exact Bool.eq_false_iff.mpr (List.rdropWhile_last_not isBlank _ some)

/-- Blanks around a text do not change its join. -/
theorem join_append_of_blank {text back : List α} (gaps : ∀ c ∈ back, isBlank c) :
    join isBlank blank (text ++ back) = join isBlank blank text := by
  have none : ∀ {back : List α}, (∀ c ∈ back, isBlank c) → join isBlank blank back = [] := by
    intro back gaps
    induction back with
    | nil => rfl
    | cons c back ih =>
      rw [join_cons_blank (gaps c List.mem_cons_self)]
      exact ih fun c mem => gaps c (List.mem_cons_of_mem _ mem)
  induction text with
  | nil => exact none gaps
  | cons c text ih =>
    rw [List.cons_append]
    by_cases gap : isBlank c
    · rw [join_cons_blank gap, join_cons_blank gap, ih]
    · rw [Bool.not_eq_true] at gap
      rw [join_cons gap, join_cons gap, ih]
      cases text with
      | nil =>
        rw [join_nil, if_pos rfl, ite_self, ite_self]
      | cons d text => rfl

theorem join_blank_append {front text : List α} (gaps : ∀ c ∈ front, isBlank c) :
    join isBlank blank (front ++ text) = join isBlank blank text := by
  induction front with
  | nil => rfl
  | cons c front ih =>
    rw [List.cons_append, join_cons_blank (gaps c List.mem_cons_self)]
    exact ih fun c mem => gaps c (List.mem_cons_of_mem _ mem)

/-- A blank behind the letters of a text is trimmed off, and nothing else. -/
theorem trim_letters_append {text : List α} (letters : ∀ c ∈ text, isBlank c = false) {c : α}
    (isEnd : isBlank c = true) : trim isBlank (text ++ [c]) = text := by
  have whole : text.rdropWhile isBlank = text := by
    rw [List.rdropWhile_eq_self_iff]
    intro some
    rw [letters _ (List.getLast_mem some)]
    exact Bool.false_ne_true
  cases text with
  | nil => rw [trim, List.nil_append, List.dropWhile_cons_of_pos isEnd, List.dropWhile_nil,
      List.rdropWhile_nil]
  | cons first rest =>
    have letter : ¬isBlank first = true := by
      rw [letters first List.mem_cons_self]
      exact Bool.false_ne_true
    rw [trim, List.cons_append, List.dropWhile_cons_of_neg letter, ← List.cons_append,
      List.rdropWhile_concat_pos _ _ _ isEnd, whole]

theorem join_trim (text : List α) :
    join isBlank blank (trim isBlank text) = join isBlank blank text := by
  have front : ∀ c ∈ text.takeWhile isBlank, isBlank c := fun c mem => List.mem_takeWhile_imp mem
  have back : ∀ c ∈ (text.dropWhile isBlank).rtakeWhile isBlank, isBlank c :=
    fun c mem => List.mem_rtakeWhile_imp mem
  rw [trim, ← join_append_of_blank back, List.rdropWhile_append_rtakeWhile,
    ← join_blank_append front, List.takeWhile_append_dropWhile]

theorem trim_map {f : α → α} (same : ∀ c, isBlank (f c) = isBlank c) (text : List α) :
    trim isBlank (text.map f) = (trim isBlank text).map f := by
  have unchanged : isBlank ∘ f = isBlank := funext same
  simp only [trim, List.rdropWhile, List.dropWhile_map, ← List.map_reverse, unchanged]

/-- A trimmed text with its join inside is the join. -/
theorem join_eq_of_infix {text : List α} (separates : isBlank blank)
    (trimmed : Trimmed isBlank text) (inside : join isBlank blank text <:+: text) :
    join isBlank blank text = text := by
  obtain ⟨front, back, whole⟩ := inside
  have letters := congrArg (fun text => (text.filter (!isBlank ·)).length) whole
  simp only [List.filter_append, filter_join separates, List.length_append] at letters
  have noFront : front = [] := by
    cases front with
    | nil => rfl
    | cons c front =>
      have letter := trimmed.head c (by rw [← whole]; rfl)
      rw [List.filter_cons_of_pos (by simp [letter]), List.length_cons] at letters
      omega
  have noBack : back = [] := by
    rcases List.eq_nil_or_concat back with rfl | ⟨back, c, rfl⟩
    · rfl
    · have letter := trimmed.last c (by rw [← whole]; simp)
      rw [List.concat_eq_append, List.filter_append, List.length_append,
        List.filter_cons_of_pos (by simp [letter]), List.length_cons] at letters
      omega
  rw [noFront, noBack, List.nil_append, List.append_nil] at whole
  exact whole

end Words
