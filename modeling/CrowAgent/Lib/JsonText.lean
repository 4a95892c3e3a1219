import CrowAgent.Lib.Json
import Mathlib.Data.List.TakeWhile

/-!
# Compact texts of JSON values

A value that a parser has built is determined by its compact text (`compact_injective`), as long as
the texts of doubles are numbers that are no integers (`FloatTexts`).
-/

/-- The form a parser keeps a number in: signed only below zero, and no infinite doubles. -/
def JsonNumber.Parsed : JsonNumber → Prop
  | .unsigned _ => True
  | .signed value => value.toInt < 0
  | .float bits => bits.toNat / 2 ^ 52 % 2 ^ 11 ≠ 2047

namespace Json

/-- The value is one that a parser builds, with ordered maps for its objects. -/
inductive Parsed : Json → Prop
  | null : Parsed .null
  | bool {value : Bool} : Parsed (.bool value)
  | number {value : JsonNumber} (parsed : value.Parsed) : Parsed (.number value)
  | string {value : String} : Parsed (.string value)
  | array {values : List Json} (elements : ∀ value ∈ values, Parsed value) : Parsed (.array values)
  | object {fields : List (String × Json)} (keys : (fields.map (·.1)).Pairwise (· < ·))
      (values : ∀ field ∈ fields, Parsed field.2) : Parsed (.object fields)

/-- An object of parsed values under ascending keys is parsed. -/
theorem parsed_of_keys {fields : List (String × Json)} (keys : List String)
    (has : fields.map (·.1) = keys) (ascending : keys.Pairwise (· < ·))
    (values : ∀ field ∈ fields, Parsed field.2) : Parsed (.object fields) :=
  .object (has ▸ ascending) values

theorem Parsed.keySorted {json : Json} (parsed : Parsed json) : KeySorted json := by
  induction parsed with
  | null => exact .null
  | bool => exact .bool
  | number => exact .number
  | string => exact .string
  | array _ ih => exact .array ih
  | object keys _ ih => exact .object keys ih

/-! ## Numbers -/

/-- A character of the text of a number. -/
def isNumeric (c : Char) : Bool := c.isDigit || c = '-' || c = '+' || c = '.' || c = 'e'

/-- Finite doubles are written as different numbers, with a point or an exponent. -/
structure FloatTexts (float : UInt64 → String) : Prop where
  numeric : ∀ bits, (JsonNumber.float bits).Parsed → ∀ c ∈ (float bits).toList, isNumeric c
  fractional : ∀ bits, (JsonNumber.float bits).Parsed →
    '.' ∈ (float bits).toList ∨ 'e' ∈ (float bits).toList
  injective : ∀ a b, (JsonNumber.float a).Parsed → (JsonNumber.float b).Parsed →
    float a = float b → a = b

section Numbers

variable {float : UInt64 → String}

theorem numberText_unsigned (value : UInt64) :
    numberText float (.unsigned value) = Nat.toDigits 10 value.toNat := Nat.toList_repr

theorem numberText_signed {value : Int64} (negative : value.toInt < 0) :
    numberText float (.signed value) = '-' :: Nat.toDigits 10 value.toInt.natAbs := by
  obtain ⟨below, same⟩ := Int.eq_negSucc_of_lt_zero negative
  rw [numberText, same]
  have text : toString (Int.negSucc below) = "-" ++ Nat.repr (below + 1) := rfl
  rw [text, String.toList_append, Nat.toList_repr]
  rfl

theorem isDigit_of_mem_toDigits {value : Nat} {c : Char} (mem : c ∈ Nat.toDigits 10 value) :
    c.isDigit := Nat.isDigit_of_mem_toDigits (by decide) (by decide) mem

theorem toDigits_injective {a b : Nat} (same : Nat.toDigits 10 a = Nat.toDigits 10 b) : a = b := by
  rw [← Nat.ofDigitChars_ten_toDigits (n := a), same, Nat.ofDigitChars_ten_toDigits]

theorem isNumeric_of_isDigit {c : Char} (digit : c.isDigit) : isNumeric c := by
  simp [isNumeric, digit]

theorem numeric_numberText (floats : FloatTexts float) {number : JsonNumber}
    (parsed : number.Parsed) : ∀ c ∈ numberText float number, isNumeric c := by
  cases number with
  | unsigned value =>
    rw [numberText_unsigned]
    exact fun c mem => isNumeric_of_isDigit (isDigit_of_mem_toDigits mem)
  | signed value =>
    rw [numberText_signed parsed]
    intro c mem
    rcases List.mem_cons.mp mem with rfl | mem
    · rfl
    · exact isNumeric_of_isDigit (isDigit_of_mem_toDigits mem)
  | float bits => exact floats.numeric bits parsed

theorem numberText_ne_nil (floats : FloatTexts float) {number : JsonNumber}
    (parsed : number.Parsed) : numberText float number ≠ [] := by
  cases number with
  | unsigned value =>
    rw [numberText_unsigned]
    exact Nat.toDigits_ne_nil
  | signed value =>
    rw [numberText_signed parsed]
    exact List.cons_ne_nil _ _
  | float bits =>
    intro empty
    rw [numberText] at empty
    have fractional := floats.fractional bits parsed
    simp [empty] at fractional

/-- A text with a point or an exponent is not the text of an integer. -/
theorem not_fractional_of_integer {text : List Char} {value : Nat}
    (integer : text = Nat.toDigits 10 value ∨ text = '-' :: Nat.toDigits 10 value) :
    ¬('.' ∈ text ∨ 'e' ∈ text) := by
  have none : ∀ c, c.isDigit = false → c ≠ '-' → c ∉ text := by
    intro c other sign mem
    rcases integer with rfl | rfl
    · simp [isDigit_of_mem_toDigits mem] at other
    · rcases List.mem_cons.mp mem with same | mem
      · exact sign same
      · simp [isDigit_of_mem_toDigits mem] at other
  rintro (point | exponent)
  · exact none '.' rfl (by decide) point
  · exact none 'e' rfl (by decide) exponent

/-- No digits begin with a sign. -/
theorem toDigits_ne_sign {a b : Nat} : Nat.toDigits 10 a ≠ '-' :: Nat.toDigits 10 b := by
  intro same
  have digit : ('-').isDigit := isDigit_of_mem_toDigits (same ▸ List.mem_cons_self)
  simp at digit

/-- Different numbers have different texts. -/
theorem numberText_injective (floats : FloatTexts float) {a b : JsonNumber} (parsedA : a.Parsed)
    (parsedB : b.Parsed) (same : numberText float a = numberText float b) : a = b := by
  cases a with
  | unsigned value =>
    rw [numberText_unsigned] at same
    cases b with
    | unsigned other =>
      rw [numberText_unsigned] at same
      exact congrArg _ (UInt64.toNat_inj.mp (toDigits_injective same))
    | signed other =>
      rw [numberText_signed parsedB] at same
      exact absurd same toDigits_ne_sign
    | float bits =>
      exact absurd (floats.fractional bits parsedB) (not_fractional_of_integer (.inl same.symm))
  | signed value =>
    rw [numberText_signed parsedA] at same
    cases b with
    | unsigned other =>
      rw [numberText_unsigned] at same
      exact absurd same.symm toDigits_ne_sign
    | signed other =>
      rw [numberText_signed parsedB] at same
      have magnitude := toDigits_injective (List.cons.inj same).2
      have below : value.toInt < 0 := parsedA
      have below' : other.toInt < 0 := parsedB
      exact congrArg _ (Int64.toInt_inj.mp (by omega))
    | float bits =>
      exact absurd (floats.fractional bits parsedB) (not_fractional_of_integer (.inr same.symm))
  | float bits =>
    cases b with
    | unsigned other =>
      rw [numberText_unsigned] at same
      exact absurd (floats.fractional bits parsedA) (not_fractional_of_integer (.inl same))
    | signed other =>
      rw [numberText_signed parsedB] at same
      exact absurd (floats.fractional bits parsedA) (not_fractional_of_integer (.inr same))
    | float other =>
      exact congrArg _ (floats.injective bits other parsedA parsedB (String.toList_inj.mp same))

end Numbers

/-- Doubles written with their bits. -/
def bitsText (bits : UInt64) : String := toString bits.toNat ++ ".0"

theorem floatTexts_bitsText : FloatTexts bitsText := by
  have text : ∀ bits, (bitsText bits).toList = Nat.toDigits 10 bits.toNat ++ ['.', '0'] := by
    intro bits
    simp [bitsText, Nat.toString_eq_repr, Nat.toList_repr]
  refine ⟨?_, ?_, ?_⟩
  · intro bits _ c mem
    rw [text] at mem
    rcases List.mem_append.mp mem with digit | point
    · exact isNumeric_of_isDigit (isDigit_of_mem_toDigits digit)
    · rcases List.mem_cons.mp point with rfl | zero
      · rfl
      · rw [List.mem_singleton.mp zero]
        rfl
  · intro bits _
    rw [text]
    exact .inl (by simp)
  · intro a b _ _ same
    have texts := congrArg String.toList same
    rw [text, text] at texts
    exact UInt64.toNat_inj.mp (toDigits_injective (List.append_cancel_right texts))

/-! ## Strings -/

/-- Read one character back, with what follows it. -/
def unescape : List Char → Option (Char × List Char)
  | '\\' :: '"' :: rest => some ('"', rest)
  | '\\' :: '\\' :: rest => some ('\\', rest)
  | '\\' :: 'n' :: rest => some ('\n', rest)
  | '\\' :: 'r' :: rest => some ('\r', rest)
  | '\\' :: 't' :: rest => some ('\t', rest)
  | '\\' :: 'b' :: rest => some (Char.ofNat 8, rest)
  | '\\' :: 'f' :: rest => some (Char.ofNat 12, rest)
  | '\\' :: 'u' :: '0' :: '0' :: high :: low :: rest => do
    let high ← Hex.value? high
    let low ← Hex.value? low
    return (Char.ofNat (16 * high + low), rest)
  | '\\' :: _ => none
  | '"' :: _ => none
  | c :: rest => some (c, rest)
  | [] => none

theorem unescape_control : ∀ value < 32, ∀ rest,
    unescape (['\\', 'u', '0', '0'] ++ Hex.digits (UInt8.ofNat value) ++ rest) =
      some (Char.ofNat value, rest) := by
  intro value small rest
  have values : ∀ value < 32, Hex.value? (Hex.digit (value / 16)) = some (value / 16) ∧
      Hex.value? (Hex.digit (value % 16)) = some (value % 16) := by decide
  have byte : (UInt8.ofNat value).toNat = value :=
    UInt8.toNat_ofNat_of_lt' (Nat.lt_trans small (by decide))
  obtain ⟨high, low⟩ := values value small
  simp only [Hex.digits, byte, List.cons_append, List.nil_append, unescape, high, low,
    Option.bind_eq_bind, Option.bind_some, Option.pure_def, Nat.div_add_mod]

theorem unescape_escapeChar (c : Char) (rest : List Char) :
    unescape (escapeChar c ++ rest) = some (c, rest) := by
  unfold escapeChar
  have back := Char.ofNat_toNat c
  split_ifs with quote slash newline carriage tab backspace feed control
  · rw [quote]; rfl
  · rw [slash]; rfl
  · rw [newline]; rfl
  · rw [carriage]; rfl
  · rw [tab]; rfl
  · rw [backspace] at back; rw [← back]; rfl
  · rw [feed] at back; rw [← back]; rfl
  · rw [unescape_control _ control, back]
  · rw [List.singleton_append, unescape.eq_def]
    split <;> simp_all

theorem escapeChar_ne_quote (c : Char) :
    ∃ first rest, escapeChar c = first :: rest ∧ first ≠ '"' := by
  unfold escapeChar
  split_ifs with quote <;> first
    | exact ⟨'\\', _, rfl, by decide⟩
    | exact ⟨c, [], rfl, quote⟩

/-- The end of a string is where it is read to. -/
theorem escaped_injective {a b s t : List Char}
    (same : a.flatMap escapeChar ++ '"' :: s = b.flatMap escapeChar ++ '"' :: t) :
    a = b ∧ s = t := by
  induction a generalizing b with
  | nil =>
    cases b with
    | nil => exact ⟨rfl, (List.cons.inj same).2⟩
    | cons d b =>
      obtain ⟨first, rest, escaped, other⟩ := escapeChar_ne_quote d
      rw [List.flatMap_cons, escaped] at same
      exact absurd (List.cons.inj same).1.symm other
  | cons c a ih =>
    cases b with
    | nil =>
      obtain ⟨first, rest, escaped, other⟩ := escapeChar_ne_quote c
      rw [List.flatMap_cons, escaped] at same
      exact absurd (List.cons.inj same).1 other
    | cons d b =>
      rw [List.flatMap_cons, List.flatMap_cons, List.append_assoc, List.append_assoc] at same
      have read := congrArg unescape same
      rw [unescape_escapeChar, unescape_escapeChar] at read
      obtain ⟨rfl, rest⟩ := Prod.mk.inj (Option.some.inj read)
      obtain ⟨rfl, tail⟩ := ih rest
      exact ⟨rfl, tail⟩

theorem quoted_injective {a b : String} {s t : List Char} (same : quoted a ++ s = quoted b ++ t) :
    a = b ∧ s = t := by
  simp only [quoted, List.append_assoc, List.cons_append, List.nil_append, List.cons.injEq,
    true_and] at same
  obtain ⟨text, rest⟩ := escaped_injective same
  exact ⟨String.toList_inj.mp text, rest⟩

/-! ## Values -/

/-- The text goes on with nothing that a number could go on with. -/
def Ends (text : List Char) : Prop := ∀ c ∈ text.head?, isNumeric c = false

theorem Ends.cons {c : Char} {text : List Char} (other : isNumeric c = false) :
    Ends (c :: text) := by
  intro first mem
  obtain rfl := Option.some.inj mem
  exact other

theorem numeric_append_injective {a b s t : List Char} (numericA : ∀ c ∈ a, isNumeric c)
    (numericB : ∀ c ∈ b, isNumeric c) (endsS : Ends s) (endsT : Ends t)
    (same : a ++ s = b ++ t) : a = b ∧ s = t := by
  have taken : ∀ {a s : List Char}, (∀ c ∈ a, isNumeric c) → Ends s →
      (a ++ s).takeWhile isNumeric = a := by
    intro a s numeric ends
    rw [List.takeWhile_append_of_pos numeric]
    cases s with
    | nil => simp
    | cons c s => simp [ends c rfl]
  have texts := congrArg (List.takeWhile isNumeric) same
  rw [taken numericA endsS, taken numericB endsT] at texts
  subst texts
  exact ⟨rfl, List.append_cancel_left same⟩

/-- What the text of a value begins with. -/
def BeginsWith (c : Char) : Json → Prop
  | .null => c = 'n'
  | .bool true => c = 't'
  | .bool false => c = 'f'
  | .number _ => isNumeric c
  | .string _ => c = '"'
  | .array _ => c = '['
  | .object _ => c = '{'

/-- The kinds of values, numbered. -/
def kind : Json → Nat
  | .null => 0
  | .bool true => 1
  | .bool false => 2
  | .string _ => 3
  | .array _ => 4
  | .object _ => 5
  | .number _ => 6

def kindOf (c : Char) : Nat := ['n', 't', 'f', '"', '[', '\x7b'].idxOf c

theorem BeginsWith.kind_eq {c : Char} {json : Json} (begins : BeginsWith c json) :
    json.kind = kindOf c := by
  cases json with
  | number value =>
    have numeric : isNumeric c := begins
    have other : c ∉ ['n', 't', 'f', '"', '[', '\x7b'] := by
      intro mem
      simp only [List.mem_cons, List.not_mem_nil, or_false] at mem
      rcases mem with rfl | rfl | rfl | rfl | rfl | rfl <;> simp [isNumeric] at numeric
    rw [kindOf, List.idxOf_of_notMem other]
    rfl
  | bool value =>
    cases value
    all_goals
      obtain rfl : c = _ := begins
      rfl
  | _ =>
    obtain rfl : c = _ := begins
    rfl

section Values

variable {float : UInt64 → String}

theorem compact_begins (floats : FloatTexts float) {json : Json} (parsed : Parsed json) :
    ∃ c rest, compact float json = c :: rest ∧ BeginsWith c json := by
  cases parsed with
  | null => exact ⟨_, _, rfl, rfl⟩
  | @bool value => cases value <;> exact ⟨_, _, rfl, rfl⟩
  | @number value parsed =>
    cases text : numberText float value with
    | nil => exact absurd text (numberText_ne_nil floats parsed)
    | cons c rest =>
      exact ⟨c, rest, by rw [compact, text],
        numeric_numberText floats parsed c (text ▸ List.mem_cons_self)⟩
  | string => exact ⟨_, _, rfl, rfl⟩
  | array => exact ⟨_, _, rfl, rfl⟩
  | object => exact ⟨_, _, rfl, rfl⟩

/-- Texts that go on to be the same are texts of the same kind of value. -/
theorem kind_eq (floats : FloatTexts float) {a b : Json} (parsedA : Parsed a) (parsedB : Parsed b)
    {s t : List Char} (same : compact float a ++ s = compact float b ++ t) : a.kind = b.kind := by
  obtain ⟨c, restA, textA, beginsA⟩ := compact_begins floats parsedA
  obtain ⟨d, restB, textB, beginsB⟩ := compact_begins floats parsedB
  rw [textA, textB] at same
  rw [beginsA.kind_eq, beginsB.kind_eq, (List.cons.inj same).1]

theorem compactValues_cons (value : Json) (rest : List Json) :
    compactValues float (value :: rest) =
      compact float value ++ if rest = [] then [] else ',' :: compactValues float rest := by
  cases rest with
  | nil => simp [compactValues]
  | cons other rest => simp [compactValues]

theorem compactFields_cons (key : String) (value : Json) (rest : List (String × Json)) :
    compactFields float ((key, value) :: rest) =
      quoted key ++ ':' :: (compact float value ++
        if rest = [] then [] else ',' :: compactFields float rest) := by
  cases rest with
  | nil => simp [compactFields]
  | cons other rest => simp [compactFields]

/-- What is left of a list of texts after one of them, up to the closing character. -/
theorem rest_injective {α : Type} {texts : List α → List Char} {close : Char}
    (other : close ≠ ',') {as bs : List α} {s t : List Char}
    (ih : texts as ++ close :: s = texts bs ++ close :: t → as = bs ∧ s = t)
    (same : (if as = [] then [] else ',' :: texts as) ++ close :: s =
      (if bs = [] then [] else ',' :: texts bs) ++ close :: t) : as = bs ∧ s = t := by
  by_cases emptyA : as = []
  · by_cases emptyB : bs = []
    · rw [if_pos emptyA, if_pos emptyB] at same
      exact ⟨emptyA.trans emptyB.symm, (List.cons.inj same).2⟩
    · rw [if_pos emptyA, if_neg emptyB] at same
      exact absurd (List.cons.inj same).1 other
  · by_cases emptyB : bs = []
    · rw [if_neg emptyA, if_pos emptyB] at same
      exact absurd (List.cons.inj same).1.symm other
    · rw [if_neg emptyA, if_neg emptyB] at same
      exact ih (List.cons.inj same).2

/-- The text of a value says where it ends. -/
def Separates (float : UInt64 → String) (a : Json) : Prop :=
  ∀ {b : Json} {s t : List Char}, Parsed a → Parsed b → Ends s → Ends t →
    compact float a ++ s = compact float b ++ t → a = b ∧ s = t

/-- A list of values up to its bracket, and the fields of an object up to its brace. -/
def SeparatesValues (float : UInt64 → String) (as : List Json) : Prop :=
  ∀ {bs : List Json} {s t : List Char}, (∀ value ∈ as, Parsed value) →
    (∀ value ∈ bs, Parsed value) →
    compactValues float as ++ ']' :: s = compactValues float bs ++ ']' :: t → as = bs ∧ s = t

def SeparatesFields (float : UInt64 → String) (as : List (String × Json)) : Prop :=
  ∀ {bs : List (String × Json)} {s t : List Char}, (∀ field ∈ as, Parsed field.2) →
    (∀ field ∈ bs, Parsed field.2) →
    compactFields float as ++ '\x7d' :: s = compactFields float bs ++ '\x7d' :: t →
      as = bs ∧ s = t

/-- What follows a value in a list is no number. -/
theorem ends_rest {α : Type} {texts : List α → List Char} {close : Char}
    (other : isNumeric close = false) {as : List α} {s : List Char} :
    Ends ((if as = [] then [] else ',' :: texts as) ++ close :: s) := by
  split
  · exact .cons other
  · exact .cons rfl

/-- No value begins with the closing bracket of a list. -/
theorem bracket_ne_compact (floats : FloatTexts float) {json : Json} (parsed : Parsed json)
    {s t : List Char} (same : ']' :: s = compact float json ++ t) : False := by
  obtain ⟨first, rest, text, begins⟩ := compact_begins floats parsed
  rw [text] at same
  have bracket : BeginsWith ']' json := (List.cons.inj same).1 ▸ begins
  cases json with
  | bool value => cases value <;> simp [BeginsWith] at bracket
  | _ => simp [BeginsWith, isNumeric] at bracket

theorem separatesValues_cons (floats : FloatTexts float) {a : Json} {as : List Json}
    (head : Separates float a) (tail : SeparatesValues float as) :
    SeparatesValues float (a :: as) := by
  intro bs s t parsedA parsedB same
  rw [compactValues_cons, List.append_assoc] at same
  cases bs with
  | nil =>
    exact (bracket_ne_compact floats (parsedA a List.mem_cons_self) same.symm).elim
  | cons b bs =>
    rw [compactValues_cons, List.append_assoc] at same
    obtain ⟨rfl, rest⟩ := head (parsedA a List.mem_cons_self) (parsedB b List.mem_cons_self)
      (ends_rest rfl) (ends_rest rfl) same
    obtain ⟨rfl, rfl⟩ := rest_injective (by decide)
      (tail (fun value mem => parsedA value (List.mem_cons_of_mem _ mem))
        (fun value mem => parsedB value (List.mem_cons_of_mem _ mem))) rest
    exact ⟨rfl, rfl⟩

theorem separatesFields_nil : SeparatesFields float [] := by
  intro bs s t _ _ same
  cases bs with
  | nil => exact ⟨rfl, (List.cons.inj same).2⟩
  | cons field bs =>
    rw [compactFields_cons, List.append_assoc] at same
    exact absurd (List.cons.inj same).1 (by decide)

theorem separatesFields_cons {key : String} {a : Json} {as : List (String × Json)}
    (head : Separates float a) (tail : SeparatesFields float as) :
    SeparatesFields float ((key, a) :: as) := by
  intro bs s t parsedA parsedB same
  rw [compactFields_cons, List.append_assoc] at same
  cases bs with
  | nil => exact absurd (List.cons.inj same).1 (by decide)
  | cons field bs =>
    obtain ⟨key', b⟩ := field
    rw [compactFields_cons, List.append_assoc] at same
    obtain ⟨rfl, value⟩ := quoted_injective same
    rw [List.cons_append, List.cons_append, List.append_assoc, List.append_assoc] at value
    obtain ⟨rfl, rest⟩ := head (parsedA (key, a) List.mem_cons_self)
      (parsedB (key, b) List.mem_cons_self) (ends_rest rfl) (ends_rest rfl)
      (List.cons.inj value).2
    obtain ⟨rfl, rfl⟩ := rest_injective (by decide)
      (tail (fun field mem => parsedA field (List.mem_cons_of_mem _ mem))
        (fun field mem => parsedB field (List.mem_cons_of_mem _ mem))) rest
    exact ⟨rfl, rfl⟩

theorem separates_number (floats : FloatTexts float) (number : JsonNumber) :
    Separates float (.number number) := by
  intro b s t parsedA parsedB endsS endsT same
  have kinds := kind_eq floats parsedA parsedB same
  cases b with
  | number other =>
    cases parsedA with
    | number parsed =>
      cases parsedB with
      | number parsed' =>
        rw [compact, compact] at same
        obtain ⟨text, rest⟩ := numeric_append_injective (numeric_numberText floats parsed)
          (numeric_numberText floats parsed') endsS endsT same
        exact ⟨congrArg _ (numberText_injective floats parsed parsed' text), rest⟩
  | bool value => cases value <;> simp [kind] at kinds
  | _ => simp [kind] at kinds

theorem separates (floats : FloatTexts float) (a : Json) : Separates float a := by
  refine @Json.rec (Separates float) (SeparatesValues float) (SeparatesFields float)
    (fun field => Separates float field.2) ?_ ?_ (separates_number floats) ?_ ?_ ?_ ?_ ?_ ?_ ?_ ?_ a
  · intro b s t parsedA parsedB _ _ same
    have kinds := kind_eq floats parsedA parsedB same
    cases b with
    | null => exact ⟨rfl, List.append_cancel_left same⟩
    | bool value => cases value <;> simp [kind] at kinds
    | _ => simp [kind] at kinds
  · intro value b s t parsedA parsedB _ _ same
    have kinds := kind_eq floats parsedA parsedB same
    cases b with
    | bool other =>
      have values : value = other := by cases value <;> cases other <;> simp_all [kind]
      subst values
      exact ⟨rfl, List.append_cancel_left same⟩
    | _ => cases value <;> simp [kind] at kinds
  · intro text b s t parsedA parsedB _ _ same
    have kinds := kind_eq floats parsedA parsedB same
    cases b with
    | string other =>
      obtain ⟨rfl, rest⟩ := quoted_injective same
      exact ⟨rfl, rest⟩
    | bool value => cases value <;> simp [kind] at kinds
    | _ => simp [kind] at kinds
  · intro values ih b s t parsedA parsedB _ _ same
    have kinds := kind_eq floats parsedA parsedB same
    cases b with
    | array others =>
      cases parsedA with
      | array elements =>
        cases parsedB with
        | array elements' =>
          simp only [compact, List.append_assoc, List.cons_append, List.nil_append,
            List.cons.injEq, true_and] at same
          obtain ⟨rfl, rest⟩ := ih elements elements' same
          exact ⟨rfl, rest⟩
    | bool value => cases value <;> simp [kind] at kinds
    | _ => simp [kind] at kinds
  · intro fields ih b s t parsedA parsedB _ _ same
    have kinds := kind_eq floats parsedA parsedB same
    cases b with
    | object others =>
      cases parsedA with
      | object _ values =>
        cases parsedB with
        | object _ values' =>
          simp only [compact, List.append_assoc, List.cons_append, List.nil_append,
            List.cons.injEq, true_and] at same
          obtain ⟨rfl, rest⟩ := ih values values' same
          exact ⟨rfl, rest⟩
    | bool value => cases value <;> simp [kind] at kinds
    | _ => simp [kind] at kinds
  · intro bs s t _ parsedB same
    cases bs with
    | nil => exact ⟨rfl, (List.cons.inj same).2⟩
    | cons b bs =>
      rw [compactValues_cons, List.append_assoc] at same
      exact (bracket_ne_compact floats (parsedB b List.mem_cons_self) same).elim
  · intro a as head tail
    exact separatesValues_cons floats head tail
  · exact separatesFields_nil
  · intro field fields head tail
    exact separatesFields_cons head tail
  · intro key value head
    exact head

/-- **The compact text of a value determines it.** -/
theorem compact_injective (floats : FloatTexts float) {a b : Json} (parsedA : Parsed a)
    (parsedB : Parsed b) (same : compact float a = compact float b) : a = b := by
  have ends : Ends [] := nofun
  exact (separates floats a parsedA parsedB ends ends (by rw [same])).1

/-- So does the text of an object whose fields stand in any order. -/
theorem compact_object_injective (floats : FloatTexts float) {as bs : List (String × Json)}
    (parsedA : ∀ field ∈ as, Parsed field.2) (parsedB : ∀ field ∈ bs, Parsed field.2)
    (same : compact float (.object as) = compact float (.object bs)) : as = bs := by
  have separates : ∀ fields, SeparatesFields float fields := by
    intro fields
    induction fields with
    | nil => exact separatesFields_nil
    | cons field fields ih => exact separatesFields_cons (separates floats field.2) ih
  have texts : compactFields float as ++ ['\x7d'] = compactFields float bs ++ ['\x7d'] :=
    (List.cons.inj same).2
  exact (separates as parsedA parsedB texts).1

end Values

end Json
