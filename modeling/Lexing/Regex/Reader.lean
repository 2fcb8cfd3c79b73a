/-
This file reads regular expressions. A vertical bar separates choices; a star, a plus or a question
mark follows the item it repeats; parentheses group, and with `?=` or `?!` look ahead; square
brackets list a class of characters. Two marks at the beginning change the meaning of what follows:
`(?i)` ignores letter case and `(?s)` lets the point stand for line ends too.
-/
import Lexing.Regex.Basic

namespace Lexing.Regex

/-! ### Characters and classes -/

/-- What a letter stands for behind a backslash. A character without a meaning of its own there
stands for itself. -/
def escapedClass (char : Char) : UnitClass :=
  match char with
  | 'd' => .decimal
  | 'D' => .complement .decimal
  | 'w' => .word
  | 'W' => .complement .word
  | 's' => .space
  | 'S' => .complement .space
  | 'n' => .exactly (.ofChar '\n')
  | 't' => .exactly (.ofChar '\t')
  | 'r' => .exactly (.ofChar '\r')
  | other => .exactly (.ofChar other)

/-- The members of a class up to the closing bracket, and what follows it. A closing bracket that
comes first is a member. -/
def readMembers : Bool → List Char → Option (UnitClass × List Char)
  | _, [] => none
  | false, ']' :: rest => some (.nothing, rest)
  | _, '\\' :: char :: rest =>
    (readMembers false rest).map fun found => (.union (escapedClass char) found.1, found.2)
  | _, first :: '-' :: last :: rest =>
    if last = ']' then
      some (.union (.exactly (.ofChar first)) (.exactly (.ofChar '-')), rest)
    else
      (readMembers false rest).map fun found =>
        (.union (.between (.ofChar first) (.ofChar last)) found.1, found.2)
  | _, char :: rest =>
    (readMembers false rest).map fun found => (.union (.exactly (.ofChar char)) found.1, found.2)

/-! ### Expressions -/

/-- The marks at the beginning, and what follows them. -/
def readMarks : List Char → Marks × List Char
  | '(' :: '?' :: 'i' :: ')' :: rest => ({ (readMarks rest).1 with ignoresCase := true },
      (readMarks rest).2)
  | '(' :: '?' :: 's' :: ')' :: rest => ({ (readMarks rest).1 with pointTakesAll := true },
      (readMarks rest).2)
  | rest => (⟨false, false⟩, rest)

/-- One character of a class. -/
def unitOf (marks : Marks) (kind : UnitClass) : Expression := .unit marks.ignoresCase kind

/-- An item repeated as the characters behind it say, and what follows these. -/
def readRepetition (item : Expression) : List Char → Expression × List Char
  | '*' :: rest => (.repeated item, rest)
  | '+' :: rest => (.sequence item (.repeated item), rest)
  | '?' :: rest => (.choice item .empty, rest)
  | rest => (item, rest)

mutual

/-- Choices up to a closing parenthesis or the end, and what is left. -/
def readChoice (marks : Marks) : Nat → List Char → Option (Expression × List Char)
  | 0, _ => none
  | fuel + 1, chars =>
    match readSequence marks fuel chars with
    | some (left, '|' :: rest) =>
      (readChoice marks fuel rest).map fun found => (.choice left found.1, found.2)
    | other => other

/-- Items up to a bar, a closing parenthesis or the end, and what is left. -/
def readSequence (marks : Marks) : Nat → List Char → Option (Expression × List Char)
  | 0, _ => none
  | fuel + 1, chars =>
    match chars with
    | [] => some (.empty, [])
    | '|' :: _ | ')' :: _ => some (.empty, chars)
    | _ =>
      match readItem marks fuel chars with
      | none => none
      | some (item, rest) =>
        let repeated := readRepetition item rest
        (readSequence marks fuel repeated.2).map fun found =>
          (.sequence repeated.1 found.1, found.2)

/-- One item, without its repetition, and what is left. -/
def readItem (marks : Marks) : Nat → List Char → Option (Expression × List Char)
  | 0, _ => none
  | fuel + 1, chars =>
    match chars with
    | '(' :: '?' :: '=' :: rest =>
      (readGroup marks fuel rest).map fun found => (.lookahead true found.1, found.2)
    | '(' :: '?' :: '!' :: rest =>
      (readGroup marks fuel rest).map fun found => (.lookahead false found.1, found.2)
    | '(' :: '?' :: ':' :: rest => readGroup marks fuel rest
    | '(' :: rest => readGroup marks fuel rest
    | '[' :: '^' :: rest =>
      (readMembers true rest).map fun found => (unitOf marks (.complement found.1), found.2)
    | '[' :: rest => (readMembers true rest).map fun found => (unitOf marks found.1, found.2)
    | '.' :: rest => some (unitOf marks (if marks.pointTakesAll then .everything else .inLine), rest)
    | '^' :: rest => some (.atBeginning, rest)
    | '$' :: rest => some (.atEnd, rest)
    | '\\' :: 'Z' :: rest => some (.atVeryEnd, rest)
    | '\\' :: char :: rest => some (unitOf marks (escapedClass char), rest)
    | ['\\'] | '*' :: _ | '+' :: _ | '?' :: _ | [] => none
    | char :: rest => some (unitOf marks (.exactly (.ofChar char)), rest)

/-- The inside of a group, and what follows the closing parenthesis. -/
def readGroup (marks : Marks) : Nat → List Char → Option (Expression × List Char)
  | 0, _ => none
  | fuel + 1, chars =>
    match readChoice marks fuel chars with
    | some (inner, ')' :: rest) => some (inner, rest)
    | _ => none

end

/-- The regular expression that a text denotes. Every character read costs at most four steps. -/
def ofString? (source : String) : Option Regex :=
  let marked := readMarks source.toList
  match readChoice marked.1 (4 * marked.2.length + 4) marked.2 with
  | some (expression, []) => some ⟨Text.ofString source, marked.1, expression⟩
  | _ => none

end Lexing.Regex
