import Mathlib.Data.List.Basic
import QueueDepth.Toml.Document

/-!
# Ways to write a document

A list of pairs can be written as a document in many ways. The relations of this module lead from contents
to every text they may be written as: with blanks around each part, comments and empty lines, line ends of
either manner, arrays over several lines and with a comma behind the last item, names bare or between
quotation marks, integers of every base, and a byte order mark in front or none.

Whatever is written in this way leaves every carriage return in front of a line feed (`KeepsReturns`).
-/

namespace QueueDepth.Toml

open Text (hexDigit? charOfCode?)

/-! ## Space -/

/-- Blanks within a line. -/
def Blanks (text : List Char) : Prop :=
  ∀ c ∈ text, c = ' ' ∨ c = '\t'

/-- A line feed, or a carriage return and a line feed. -/
inductive LineEnd : List Char → Prop where
  | feed : LineEnd ['\n']
  | pair : LineEnd ['\r', '\n']

/-- A comment up to the end of its line, or none. -/
inductive Comment : List Char → Prop where
  | none : Comment []
  | some {content : List Char} : (∀ c ∈ content, isVisible c = true) → Comment ('#' :: content)

/-- Lines with nothing but a comment or not even that, and the blanks at the head of a line. -/
inductive Space : List Char → Prop where
  | blanks {blanks : List Char} : Blanks blanks → Space blanks
  | line {blanks comment stop more : List Char} :
    Blanks blanks → Comment comment → LineEnd stop → Space more →
    Space (blanks ++ (comment ++ (stop ++ more)))

/-! ## Names and strings -/

/-- Blanks and line ends, which a string drops behind a backslash that ends a line. -/
inductive Fold : List Char → Prop where
  | blanks {blanks : List Char} : Blanks blanks → Fold blanks
  | line {blanks stop more : List Char} :
    Blanks blanks → LineEnd stop → Fold more → Fold (blanks ++ (stop ++ more))

/-- A text does not begin with a character that a string would drop behind the end of a line. -/
def Unspaced (text : List Char) : Prop :=
  ∀ c ∈ text.head?, isBlank c = false ∧ isLineEnd c = false

/-- The code point that hexadecimal digits make of the digits before them. -/
def codeFrom? (value : Nat) : List Char → Option Nat
  | [] => some value
  | c :: rest => (hexDigit? c).bind fun digit => codeFrom? (16 * value + digit) rest

/-- The texts that a content can be written as between double quotation marks. Every character may be given
by its code point, and where there are three marks, a backslash may end a line. -/
inductive WrittenBasic (marks : Marks) : List Char → List Char → Prop where
  | nil : WrittenBasic marks [] []
  | plain {c : Char} {content text : List Char} :
    isVisible c = true → c ≠ '"' → c ≠ '\\' → WrittenBasic marks content text →
    WrittenBasic marks (c :: content) (c :: text)
  | short {escape c : Char} {content text : List Char} :
    shortEscape? escape = some c → WrittenBasic marks content text →
    WrittenBasic marks (c :: content) ('\\' :: escape :: text)
  | code {letter c : Char} {digits content text : List Char} {code : Nat} :
    codeLength? letter = some digits.length → codeFrom? 0 digits = some code →
    charOfCode? code = some c → WrittenBasic marks content text →
    WrittenBasic marks (c :: content) ('\\' :: letter :: (digits ++ text))
  | fold {blanks stop space content text : List Char} :
    marks = .three → Blanks blanks → LineEnd stop → Fold space → Unspaced text →
    WrittenBasic marks content text →
    WrittenBasic marks content ('\\' :: (blanks ++ (stop ++ (space ++ text))))

/-- The texts that a content can be written as between quotation marks on one line. Between single marks
every character stands for itself. -/
inductive Enclosed (content : List Char) : List Char → Prop where
  | double {text : List Char} : WrittenBasic .one content text → Enclosed content ('"' :: (text ++ ['"']))
  | single : (∀ c ∈ content, isVisible c = true ∧ c ≠ '\'') →
    Enclosed content ('\'' :: (content ++ ['\'']))

/-- The texts that a key without dots can be written as. -/
inductive WrittenKey (name : List Char) : List Char → Prop where
  | bare : name ≠ [] → (∀ c ∈ name, isBareChar c = true) → WrittenKey name name
  | enclosed {text : List Char} : Enclosed name text → WrittenKey name text

/-- The texts that a string can be written as. A line end right behind three marks does not count. -/
inductive WrittenString (content : List Char) : List Char → Prop where
  | line {text : List Char} : Enclosed content text → WrittenString content text
  | double {first text : List Char} :
    first = [] ∨ LineEnd first → WrittenBasic .three content text →
    WrittenString content (['"', '"', '"'] ++ (first ++ (text ++ ['"', '"', '"'])))
  | single {first : List Char} :
    first = [] ∨ LineEnd first → (∀ c ∈ content, isVisible c = true ∧ c ≠ '\'') →
    WrittenString content (['\'', '\'', '\''] ++ (first ++ (content ++ ['\'', '\'', '\''])))

/-! ## Integers -/

/-- Digits that make a number of the number before them; single underscores may part them. -/
inductive Digits (base : Nat) : Nat → Nat → List Char → Prop where
  | last {before digit : Nat} {c : Char} :
    digitIn? base c = some digit → Digits base before (before * base + digit) [c]
  | next {before digit total : Nat} {c : Char} {rest : List Char} :
    digitIn? base c = some digit → Digits base (before * base + digit) total rest →
    Digits base before total (c :: rest)
  | parted {before digit total : Nat} {c : Char} {rest : List Char} :
    digitIn? base c = some digit → Digits base (before * base + digit) total rest →
    Digits base before total (c :: '_' :: rest)

/-- The digits of a decimal begin with a zero only if that is all. -/
def Shortest (digits : List Char) : Prop :=
  ∀ rest, digits = '0' :: rest → rest = []

/-- The texts that a natural number can be written as. -/
inductive WrittenNumber (n : Nat) : List Char → Prop where
  | decimal {digits : List Char} : Digits 10 0 n digits → Shortest digits → WrittenNumber n digits
  | plus {digits : List Char} :
    Digits 10 0 n digits → Shortest digits → WrittenNumber n ('+' :: digits)
  | hexadecimal {digits : List Char} : Digits 16 0 n digits → WrittenNumber n ('0' :: 'x' :: digits)
  | octal {digits : List Char} : Digits 8 0 n digits → WrittenNumber n ('0' :: 'o' :: digits)
  | binary {digits : List Char} : Digits 2 0 n digits → WrittenNumber n ('0' :: 'b' :: digits)

/-! ## Arrays, pairs and documents -/

section Written

variable {α : Type} (written : α → List Char → Prop)

/-- Items up to the closing bracket, with commas between them; a comma may follow the last. -/
inductive WrittenItems : List α → List Char → Prop where
  | none {space : List Char} : Space space → WrittenItems [] (space ++ [']'])
  | last {before text behind : List Char} {item : α} :
    Space before → written item text → Space behind →
    WrittenItems [item] (before ++ (text ++ (behind ++ [']'])))
  | next {before text behind more : List Char} {item : α} {items : List α} :
    Space before → written item text → Space behind → WrittenItems items more →
    WrittenItems (item :: items) (before ++ (text ++ (behind ++ ',' :: more)))

/-- Items on lines of their own, with space between them. The last line need not be ended. -/
inductive WrittenLines : List α → List Char → Prop where
  | none {space comment : List Char} :
    Space space → Comment comment → WrittenLines [] (space ++ comment)
  | last {before text blanks comment : List Char} {item : α} :
    Space before → written item text → Blanks blanks → Comment comment →
    WrittenLines [item] (before ++ (text ++ (blanks ++ comment)))
  | next {before text blanks comment stop more : List Char} {item : α} {items : List α} :
    Space before → written item text → Blanks blanks → Comment comment → LineEnd stop →
    WrittenLines items more →
    WrittenLines (item :: items) (before ++ (text ++ (blanks ++ (comment ++ (stop ++ more)))))

/-- Lines with or without a mark in front. -/
inductive WrittenDocument (items : List α) : List Char → Prop where
  | bare {text : List Char} : WrittenLines written items text → WrittenDocument items text
  | marked {text : List Char} :
    WrittenLines written items text → WrittenDocument items (byteOrderMark :: text)

end Written

/-- A key and a value, with blanks around the equality sign. -/
inductive WrittenPair (name : List Char) (written : List Char → Prop) : List Char → Prop where
  | mk {key before behind value : List Char} :
    WrittenKey name key → Blanks before → Blanks behind → written value →
    WrittenPair name written (key ++ (before ++ '=' :: (behind ++ value)))

/-! ## Carriage returns -/

/-- A text changes nothing about the carriage returns behind it. -/
def KeepsReturns (text : List Char) : Prop :=
  ∀ rest, returnsEndLines (text ++ rest) = returnsEndLines rest

namespace KeepsReturns

theorem cons {c : Char} (other : c ≠ '\r') {text : List Char} (keeps : KeepsReturns text) :
    KeepsReturns (c :: text) := by
  intro rest
  rw [← keeps rest, List.cons_append]
  simp [returnsEndLines, other]

theorem append {text more : List Char} (keeps : KeepsReturns text) (keeps' : KeepsReturns more) :
    KeepsReturns (text ++ more) := by
  intro rest
  rw [List.append_assoc, keeps, keeps']

theorem of_notMem {text : List Char} (none : '\r' ∉ text) : KeepsReturns text := by
  induction text with
  | nil => exact fun rest => rfl
  | cons c text ih =>
    obtain ⟨here, later⟩ := not_or.mp (mt List.mem_cons.mpr none)
    exact cons (Ne.symm here) (ih later)

theorem of_visible {text : List Char} (visible : ∀ c ∈ text, isVisible c = true) :
    KeepsReturns text := by
  refine of_notMem fun member => ?_
  cases visible _ member

end KeepsReturns

theorem Blanks.keepsReturns {blanks : List Char} (only : Blanks blanks) : KeepsReturns blanks := by
  refine .of_notMem fun member => ?_
  rcases only _ member with same | same <;> cases same

theorem LineEnd.keepsReturns {stop : List Char} (ends : LineEnd stop) : KeepsReturns stop := by
  cases ends with
  | feed => exact .cons (by decide) fun rest => rfl
  | pair => exact fun rest => rfl

theorem Comment.keepsReturns {comment : List Char} (optional : Comment comment) :
    KeepsReturns comment := by
  cases optional with
  | none => exact fun rest => rfl
  | some visible => exact .cons (by decide) (.of_visible visible)

theorem Space.keepsReturns {space : List Char} (only : Space space) : KeepsReturns space := by
  induction only with
  | blanks only => exact only.keepsReturns
  | line only optional ends _ ih =>
    exact only.keepsReturns.append (optional.keepsReturns.append (ends.keepsReturns.append ih))

theorem Fold.keepsReturns {space : List Char} (fold : Fold space) : KeepsReturns space := by
  induction fold with
  | blanks only => exact only.keepsReturns
  | line only ends _ ih => exact only.keepsReturns.append (ends.keepsReturns.append ih)

theorem keepsReturns_of_codeFrom? {value code : Nat} {digits : List Char}
    (read : codeFrom? value digits = some code) : KeepsReturns digits := by
  induction digits generalizing value with
  | nil => exact fun rest => rfl
  | cons c digits ih =>
    obtain ⟨digit, hexadecimal, later⟩ := Option.bind_eq_some_iff.mp read
    refine .cons ?_ (ih later)
    rintro rfl
    cases hexadecimal

theorem WrittenBasic.keepsReturns {marks : Marks} {content text : List Char}
    (basic : WrittenBasic marks content text) : KeepsReturns text := by
  induction basic with
  | nil => exact fun rest => rfl
  | plain visible _ _ _ ih =>
    refine .cons ?_ ih
    rintro rfl
    cases visible
  | short escape _ ih =>
    refine .cons (by decide) (.cons ?_ ih)
    rintro rfl
    cases escape
  | @code letter c digits content text code length value _ _ ih =>
    have letterOther : letter ≠ '\r' := by
      rintro rfl
      cases length
    exact .cons (by decide) (.cons letterOther ((keepsReturns_of_codeFrom? value).append ih))
  | fold _ only ends space _ _ ih =>
    exact .cons (by decide)
      (only.keepsReturns.append (ends.keepsReturns.append (space.keepsReturns.append ih)))

theorem Enclosed.keepsReturns {content text : List Char} (enclosed : Enclosed content text) :
    KeepsReturns text := by
  cases enclosed with
  | double basic => exact .cons (by decide) (basic.keepsReturns.append (.of_notMem (by decide)))
  | single plain =>
    have content := KeepsReturns.of_visible fun c member => (plain c member).1
    exact .cons (by decide) (content.append (.of_notMem (by decide)))

theorem WrittenKey.keepsReturns {name text : List Char} (key : WrittenKey name text) :
    KeepsReturns text := by
  cases key with
  | bare _ bare =>
    refine .of_notMem fun member => ?_
    cases bare _ member
  | enclosed enclosed => exact enclosed.keepsReturns

theorem WrittenString.keepsReturns {content text : List Char} (string : WrittenString content text) :
    KeepsReturns text := by
  have start {first : List Char} (optional : first = [] ∨ LineEnd first) : KeepsReturns first := by
    rcases optional with rfl | ends
    · exact fun rest => rfl
    · exact ends.keepsReturns
  cases string with
  | line enclosed => exact enclosed.keepsReturns
  | double optional basic =>
    have marks : KeepsReturns ['"', '"', '"'] := .of_notMem (by decide)
    exact marks.append ((start optional).append (basic.keepsReturns.append marks))
  | single optional plain =>
    have marks : KeepsReturns ['\'', '\'', '\''] := .of_notMem (by decide)
    have content := KeepsReturns.of_visible fun c member => (plain c member).1
    exact marks.append ((start optional).append (content.append marks))

theorem WrittenPair.keepsReturns {name text : List Char} {written : List Char → Prop}
    (keeps : ∀ shown, written shown → KeepsReturns shown) (pair : WrittenPair name written text) :
    KeepsReturns text := by
  cases pair with
  | mk key before behind shown =>
    exact key.keepsReturns.append
      (before.keepsReturns.append (.cons (by decide) (behind.keepsReturns.append (keeps _ shown))))

section Written

variable {α : Type} {written : α → List Char → Prop} {items : List α} {text : List Char}

theorem WrittenItems.keepsReturns (keeps : ∀ item text, written item text → KeepsReturns text)
    (array : WrittenItems written items text) : KeepsReturns text := by
  induction array with
  | none only => exact only.keepsReturns.append (.of_notMem (by decide))
  | last before item behind =>
    exact before.keepsReturns.append
      ((keeps _ _ item).append (behind.keepsReturns.append (.of_notMem (by decide))))
  | next before item behind _ ih =>
    exact before.keepsReturns.append
      ((keeps _ _ item).append (behind.keepsReturns.append (.cons (by decide) ih)))

theorem WrittenLines.keepsReturns (keeps : ∀ item text, written item text → KeepsReturns text)
    (lines : WrittenLines written items text) : KeepsReturns text := by
  induction lines with
  | none only optional => exact only.keepsReturns.append optional.keepsReturns
  | last before item blanks optional =>
    exact before.keepsReturns.append
      ((keeps _ _ item).append (blanks.keepsReturns.append optional.keepsReturns))
  | next before item blanks optional ends _ ih =>
    exact before.keepsReturns.append ((keeps _ _ item).append
      (blanks.keepsReturns.append (optional.keepsReturns.append (ends.keepsReturns.append ih))))

theorem WrittenDocument.returnsEndLines (keeps : ∀ item text, written item text → KeepsReturns text)
    (document : WrittenDocument written items text) : returnsEndLines text = true := by
  have whole {text : List Char} (keeps : KeepsReturns text) : Toml.returnsEndLines text = true := by
    rw [← List.append_nil text, keeps]
    rfl
  cases document with
  | bare lines => exact whole (lines.keepsReturns keeps)
  | marked lines => exact whole (.cons (by decide) (lines.keepsReturns keeps))

end Written

end QueueDepth.Toml
