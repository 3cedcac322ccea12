import OperatorConsole.Json.Scalar

/-!
# The grammar of JSON

What is a JSON text, said without a reader.  A string of the grammar may hold
any `\u` escapes.  It spells a text only if those for surrogates come in pairs,
as a character of a text is never a surrogate.
-/

namespace OperatorConsole.Json

/-- A text in braces. -/
def braced (text : String) : String :=
  String.singleton '{' ++ text ++ String.singleton '}'

def Blanks (cs : List Char) : Prop :=
  ∀ c ∈ cs, isBlank c = true

instance (cs : List Char) : Decidable (Blanks cs) :=
  decidable_of_iff (cs.all isBlank = true) List.all_eq_true

/-- A text with blanks around it. -/
def Padded (inner text : List Char) : Prop :=
  ∃ before after, Blanks before ∧ Blanks after ∧
    text = before ++ (inner ++ after)

/-! ## Strings -/

/-- A character that stands for itself in a string. -/
structure IsPlain (c : Char) : Prop where
  notControl : 0x20 ≤ c.toNat
  notQuote : c ≠ '"'
  notBackslash : c ≠ '\\'

/-- The letters that may follow a backslash, and what they stand for there. -/
def letterEscapes : List (Char × Char) :=
  [('"', '"'), ('\\', '\\'), ('/', '/'), ('b', '\x08'), ('f', '\x0c'),
    ('n', '\n'), ('r', '\r'), ('t', '\t')]

/-- Four hexadecimal digits and their value. -/
inductive IsUnit : List Char → Nat → Prop where
  | digits {a b c d : Char} {i j k l : Nat}
      (first : Text.hexValue? a = some i) (second : Text.hexValue? b = some j)
      (third : Text.hexValue? c = some k) (fourth : Text.hexValue? d = some l) :
      IsUnit [a, b, c, d] (((i * 16 + j) * 16 + k) * 16 + l)

/-- What may stand between the quotes of a string. -/
inductive IsString : List Char → Prop where
  | nil : IsString []
  | plain {c : Char} {rest : List Char} (isPlain : IsPlain c)
      (others : IsString rest) : IsString (c :: rest)
  | letter {letter meant : Char} {rest : List Char}
      (known : (letter, meant) ∈ letterEscapes) (others : IsString rest) :
      IsString ('\\' :: letter :: rest)
  | unit {digits rest : List Char} {value : Nat} (isUnit : IsUnit digits value)
      (others : IsString rest) : IsString ('\\' :: 'u' :: (digits ++ rest))

/-- The text that a string spells. -/
inductive Spells : List Char → List Char → Prop where
  | nil : Spells [] []
  | plain {c : Char} {rest cs : List Char} (isPlain : IsPlain c)
      (others : Spells rest cs) : Spells (c :: rest) (c :: cs)
  | letter {letter meant : Char} {rest cs : List Char}
      (known : (letter, meant) ∈ letterEscapes) (others : Spells rest cs) :
      Spells ('\\' :: letter :: rest) (meant :: cs)
  | unit {c : Char} {digits rest cs : List Char}
      (isUnit : IsUnit digits c.toNat) (others : Spells rest cs) :
      Spells ('\\' :: 'u' :: (digits ++ rest)) (c :: cs)
  /-- A character beyond the first 65536, as two surrogates. -/
  | pair {c : Char} {leading trailing rest cs : List Char} {high low : Nat}
      (leads : IsUnit leading (0xd800 + high)) (highSmall : high < 0x400)
      (trails : IsUnit trailing (0xdc00 + low)) (lowSmall : low < 0x400)
      (code : c.toNat = 0x10000 + high * 0x400 + low)
      (others : Spells rest cs) :
      Spells ('\\' :: 'u' :: (leading ++ '\\' :: 'u' :: (trailing ++ rest)))
        (c :: cs)

/-- The text of a string with this between its quotes. -/
def quoted (content : List Char) : List Char :=
  '"' :: (content ++ ['"'])

theorem Spells.isString {content cs : List Char}
    (spells : Spells content cs) : IsString content := by
  induction spells with
  | nil => exact .nil
  | plain isPlain _ induction => exact .plain isPlain induction
  | letter known _ induction => exact .letter known induction
  | unit isUnit _ induction => exact .unit isUnit induction
  | pair leads _ trails _ _ _ induction =>
      exact .unit leads (.unit trails induction)

/-! ## Numbers -/

structure IsDigits (cs : List Char) : Prop where
  notEmpty : cs ≠ []
  areDigits : ∀ c ∈ cs, c.isDigit = true

/-- A whole number starts with a zero only if it is zero. -/
inductive IsWhole : List Char → Prop where
  | zero : IsWhole ['0']
  | digits {c : Char} {others : List Char} (notZero : c ≠ '0')
      (isDigit : c.isDigit = true)
      (areDigits : ∀ other ∈ others, other.isDigit = true) :
      IsWhole (c :: others)

inductive IsExponent : List Char → Prop where
  | none : IsExponent []
  | some {mark : Char} {sign digits : List Char}
      (isMark : mark = 'e' ∨ mark = 'E')
      (isSign : sign = [] ∨ sign = ['+'] ∨ sign = ['-'])
      (isDigits : IsDigits digits) : IsExponent (mark :: (sign ++ digits))

/-- What may follow a whole number. -/
inductive IsTail : List Char → Prop where
  | exponent {text : List Char} (isExponent : IsExponent text) : IsTail text
  | fraction {digits exponent : List Char} (isDigits : IsDigits digits)
      (isExponent : IsExponent exponent) : IsTail ('.' :: (digits ++ exponent))

/-- A number without a sign. -/
inductive IsMagnitude : List Char → Prop where
  | parts {whole tail : List Char} (isWhole : IsWhole whole)
      (isTail : IsTail tail) : IsMagnitude (whole ++ tail)

inductive IsNumber : List Char → Prop where
  | positive {text : List Char} (isMagnitude : IsMagnitude text) : IsNumber text
  | negative {text : List Char} (isMagnitude : IsMagnitude text) :
      IsNumber ('-' :: text)

/-! ## Values -/

/-- The values that are written as words. -/
def literalNames : List (List Char) :=
  ["null".toList, "true".toList, "false".toList]

/-- A member of an object, as it is written: what stands between the quotes of
its name, and the text of its value. -/
structure Member where
  name : List Char
  value : List Char

mutual

inductive IsValue : List Char → Prop where
  | word {text : List Char} (isName : text ∈ literalNames) : IsValue text
  | number {text : List Char} (isNumber : IsNumber text) : IsValue text
  | string {content : List Char} (isString : IsString content) :
      IsValue (quoted content)
  | emptyList {between : List Char} (blank : Blanks between) :
      IsValue ('[' :: (between ++ [']']))
  | list {content : List Char} (areItems : IsItems content) :
      IsValue ('[' :: (content ++ [']']))
  | object {members : List Member} {text : List Char}
      (isObject : IsObject members text) : IsValue text

/-- The items of a list, of which there is one at least. -/
inductive IsItems : List Char → Prop where
  | last {value text : List Char} (isValue : IsValue value)
      (padded : Padded value text) : IsItems text
  | more {value text others : List Char} (isValue : IsValue value)
      (padded : Padded value text) (areItems : IsItems others) :
      IsItems (text ++ ',' :: others)

/-- An object with its members in the order in which they stand. -/
inductive IsObject : List Member → List Char → Prop where
  | empty {between : List Char} (blank : Blanks between) :
      IsObject [] ('{' :: (between ++ ['}']))
  | members {members : List Member} {content : List Char}
      (areMembers : IsMembers members content) :
      IsObject members ('{' :: (content ++ ['}']))

/-- The members of an object, of which there is one at least. -/
inductive IsMembers : List Member → List Char → Prop where
  | last {name value front back : List Char} (isString : IsString name)
      (named : Padded (quoted name) front) (isValue : IsValue value)
      (padded : Padded value back) :
      IsMembers [⟨name, value⟩] (front ++ ':' :: back)
  | more {name value front back others : List Char} {members : List Member}
      (isString : IsString name) (named : Padded (quoted name) front)
      (isValue : IsValue value) (padded : Padded value back)
      (areMembers : IsMembers members others) :
      IsMembers (⟨name, value⟩ :: members)
        (front ++ ':' :: (back ++ ',' :: others))

end

/-- A JSON text is a value with blanks around it. -/
def IsText (text : List Char) : Prop :=
  ∃ value, IsValue value ∧ Padded value text

end OperatorConsole.Json
