import AlertBridge.Json.Written
import AlertBridge.Text.Integer

/-!
# Reading documents

`Json.read?` reads one value of JSON with blanks around it. Beyond the grammar it accepts the
words `NaN`, `Infinity` and `-Infinity`; of several fields of one name the last value stays, at
the place of the first. Control characters inside quotes are refused, and so is an integer of
more than 4300 digits. An escaped surrogate without its partner reads as the replacement
character.
-/

namespace AlertBridge.Json

/-- The blanks of the grammar. -/
def isSpace (c : Char) : Bool := c = ' ' || c = '\t' || c = '\n' || c = '\r'

/-- The text after its leading blanks. -/
def skipSpace (cs : List Char) : List Char := cs.dropWhile isSpace

/-- Four hexadecimal digits and the rest. -/
def readUnit? : List Char → Option (Nat × List Char)
  | a :: b :: c :: d :: rest =>
    if [a, b, c, d].all fun x => (hexDigit? x).isSome then
      some (hexValue [a, b, c, d], rest)
    else none
  | _ => none

/-- The character for a code point, the replacement character for a surrogate. -/
def scalar (n : Nat) : Char :=
  if 0xD800 ≤ n && n ≤ 0xDFFF then Char.ofNat 0xFFFD else Char.ofNat n

/-- The character of an escape other than that of a code unit. -/
def simpleEscape? (c : Char) : Option Char :=
  [('"', '"'), ('\\', '\\'), ('/', '/'), ('b', '\x08'), ('f', '\x0c'), ('n', '\n'), ('r', '\r'),
    ('t', '\t')].lookup c

/-- The second half of a surrogate pair, written as an escape, and the rest. -/
def readLowSurrogate? : List Char → Option (Nat × List Char)
  | '\\' :: 'u' :: rest =>
    match readUnit? rest with
    | some (low, after) => if 0xDC00 ≤ low && low ≤ 0xDFFF then some (low, after) else none
    | none => none
  | _ => none

theorem length_of_readUnit? {cs rest : List Char} {n : Nat} (h : readUnit? cs = some (n, rest)) :
    rest.length < cs.length := by
  unfold readUnit? at h
  split at h
  · split at h <;> simp_all; omega
  · simp at h

theorem length_of_readLowSurrogate? {cs rest : List Char} {n : Nat}
    (h : readLowSurrogate? cs = some (n, rest)) : rest.length < cs.length := by
  unfold readLowSurrogate? at h
  split at h
  · split at h
    · have := length_of_readUnit? (by assumption)
      split at h <;> simp_all; omega
    · simp at h
  · simp at h

/-- The rest of a quoted text after the opening quote, and what follows it; `done` holds the
characters read, the last one first. -/
def readQuoted? (done : List Char) : List Char → Option (String × List Char)
  | [] => none
  | '"' :: rest => some (String.ofList done.reverse, rest)
  | '\\' :: 'u' :: rest =>
    match _h : readUnit? rest with
    | none => none
    | some (n, rest) =>
      if 0xD800 ≤ n && n ≤ 0xDBFF then
        match _h : readLowSurrogate? rest with
        | some (low, after) =>
          readQuoted? (Char.ofNat (0x10000 + (n - 0xD800) * 0x400 + (low - 0xDC00)) :: done) after
        | none => readQuoted? (scalar n :: done) rest
      else readQuoted? (scalar n :: done) rest
  | '\\' :: c :: rest =>
    match simpleEscape? c with
    | some e => readQuoted? (e :: done) rest
    | none => none
  | c :: rest => if c.toNat < 32 then none else readQuoted? (c :: done) rest
termination_by cs => cs.length
decreasing_by
  · have := length_of_readUnit? (by assumption)
    have := length_of_readLowSurrogate? (by assumption)
    simp only [List.length_cons]; omega
  · have := length_of_readUnit? (by assumption)
    simp only [List.length_cons]; omega
  · have := length_of_readUnit? (by assumption)
    simp only [List.length_cons]; omega
  · simp only [List.length_cons]; omega
  · simp only [List.length_cons]; omega

/-- The exponent of a number, if one stands here. -/
def readExponent? (cs : List Char) : Option (Int × List Char) :=
  match cs with
  | e :: rest =>
    if e = 'e' || e = 'E' then
      let (negative, rest) := match rest with
        | '-' :: r => (true, r)
        | '+' :: r => (false, r)
        | r => (false, r)
      let digits := rest.takeWhile Char.isDigit
      if digits.isEmpty then none
      else
        let n : Int := decimalValue digits
        some (if negative then -n else n, rest.drop digits.length)
    else none
  | [] => none

/-- The number that starts here, after its sign. -/
def readNumber? (negative : Bool) (cs : List Char) : Option (Json × List Char) :=
  let whole := match cs with
    | '0' :: _ => ['0']
    | _ => cs.takeWhile Char.isDigit
  if whole.isEmpty then none
  else
    let rest := cs.drop whole.length
    let fraction := match rest with
      | '.' :: r => r.takeWhile Char.isDigit
      | _ => []
    let rest := if fraction.isEmpty then rest else rest.drop (fraction.length + 1)
    let double (exponent : Int) : Json :=
      .real (.ofDecimal negative (decimalValue (whole ++ fraction))
        (exponent - fraction.length))
    match readExponent? rest with
    | some (e, after) => some (double e, after)
    | none =>
      if !fraction.isEmpty then some (double 0, rest)
      else if whole.length > maxNumeralDigits then none
      else
        let n : Int := decimalValue whole
        some (.int (if negative then -n else n), rest)

/-- The words of the grammar and the values they denote. -/
def words : List (String × Json) := [
  ("null", .null), ("true", .bool true), ("false", .bool false), ("NaN", .real .nan),
  ("Infinity", .real (.infinite false)), ("-Infinity", .real (.infinite true))]

/-- The value without parts that starts here. -/
def readScalar? (cs : List Char) : Option (Json × List Char) :=
  match words.findSome? fun (w, v) => (stripStart? w.toList cs).map (v, ·) with
  | some found => some found
  | none => match cs with
    | '-' :: rest => readNumber? true rest
    | _ => readNumber? false cs

mutual

/-- The value that starts here, and what follows it. -/
def readValue? (cs : List Char) : Option (Json × List Char) :=
  match cs with
  | '"' :: rest => (readQuoted? [] rest).map fun (s, after) => (.str s, after)
  | '[' :: rest =>
    match skipSpace rest with
    | ']' :: after => some (.arr [], after)
    | _ => readItems? [] rest
  | '\x7b' :: rest =>
    match skipSpace rest with
    | '\x7d' :: after => some (.obj [], after)
    | _ => readFields? [] rest
  | _ => readScalar? cs
termination_by (cs.length, 0)

/-- The items of an array from here to its end; `done` holds those read, the last one first. -/
def readItems? (done : List Json) (cs : List Char) : Option (Json × List Char) :=
  match readValue? (skipSpace cs) with
  | none => none
  | some (v, rest) =>
    match skipSpace rest with
    | ']' :: after => some (.arr (v :: done).reverse, after)
    | ',' :: after => if after.length < cs.length then readItems? (v :: done) after else none
    | _ => none
termination_by (cs.length, 1)
decreasing_by
  · have : (skipSpace cs).length ≤ cs.length := (List.dropWhile_sublist _).length_le
    simp only [Prod.lex_def]; omega
  · simp only [Prod.lex_def]; omega

/-- The fields of an object from here to its end, after those read. -/
def readFields? (done : List (String × Json)) (cs : List Char) : Option (Json × List Char) :=
  match skipSpace cs with
  | '"' :: rest =>
    match readQuoted? [] rest with
    | none => none
    | some (name, rest) =>
      match skipSpace rest with
      | ':' :: rest =>
        let rest := skipSpace rest
        if rest.length < cs.length then
          match readValue? rest with
          | none => none
          | some (v, rest) =>
            match skipSpace rest with
            | '\x7d' :: after => some (.obj (setField done name v), after)
            | ',' :: after =>
              if after.length < cs.length then readFields? (setField done name v) after else none
            | _ => none
        else none
      | _ => none
  | _ => none
termination_by (cs.length, 1)

end

/-- The value that a text of JSON denotes. -/
def read? (cs : List Char) : Option Json :=
  match readValue? (skipSpace cs) with
  | some (v, rest) => if (skipSpace rest).isEmpty then some v else none
  | none => none

end AlertBridge.Json
