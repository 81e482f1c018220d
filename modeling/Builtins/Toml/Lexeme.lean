/-!
# TOML lexemes

Blanks, comments, line ends, keys and strings. A scanner takes the characters that are left and gives
what it has read and what follows it, or nothing if it cannot read.
-/
namespace Builtins.Toml

abbrev Scanner (α : Type) := List Char → Option (α × List Char)

/-- Reads one character. -/
def expect (c : Char) : List Char → Option (List Char)
  | d :: cs => if d = c then some cs else none
  | [] => none

/-! ## Between values -/

def isBlank (c : Char) : Bool := c == ' ' || c == '\t'

def isBeyondAscii (c : Char) : Bool := 0x80 ≤ c.toNat

def skipBlanks (cs : List Char) : List Char := cs.dropWhile isBlank

/-- A line feed, or a carriage return and a line feed. -/
def newline : List Char → Option (List Char)
  | '\n' :: cs => some cs
  | '\r' :: '\n' :: cs => some cs
  | _ => none

def isCommentChar (c : Char) : Bool :=
  c == '\t' || (0x20 ≤ c.toNat && c.toNat ≤ 0x7E) || isBeyondAscii c

/-- Leaves out a comment, up to the end of its line. -/
def skipComment : List Char → List Char
  | '#' :: cs => cs.dropWhile isCommentChar
  | cs => cs

/-- The end of a line or of the text. -/
def lineEnd : List Char → Option (List Char)
  | [] => some []
  | cs => newline cs

/-- What may follow on the line of a header or an entry. -/
def trailing (cs : List Char) : Option (List Char) := lineEnd (skipComment (skipBlanks cs))

/-- Leaves out blanks, line ends and comments. -/
def skipSpace : List Char → List Char
  | [] => []
  | '\r' :: '\n' :: cs => skipSpace cs
  | '#' :: cs => skipComments cs
  | c :: cs => if isBlank c || c == '\n' then skipSpace cs else c :: cs
where
  /-- Leaves out the rest of a comment and what follows it. -/
  skipComments : List Char → List Char
    | [] => []
    | '\r' :: '\n' :: cs => skipSpace cs
    | '\n' :: cs => skipSpace cs
    | c :: cs => if isCommentChar c then skipComments cs else c :: cs

/-! ## Strings -/

def hexValue? (c : Char) : Option Nat :=
  if '0' ≤ c ∧ c ≤ '9' then some (c.toNat - '0'.toNat)
  else if 'a' ≤ c ∧ c ≤ 'f' then some (c.toNat - 'a'.toNat + 10)
  else if 'A' ≤ c ∧ c ≤ 'F' then some (c.toNat - 'A'.toNat + 10)
  else none

/-- Reads `n` hexadecimal digits onto `acc`. -/
def hexDigits : Nat → Nat → Scanner Nat
  | 0, acc, cs => some (acc, cs)
  | _ + 1, _, [] => none
  | n + 1, acc, c :: cs =>
    match hexValue? c with
    | some d => hexDigits n (16 * acc + d) cs
    | none => none

/-- A character by its code point. Surrogates are none. -/
def codePoint (digits : Nat) (cs : List Char) : Option (Char × List Char) :=
  match hexDigits digits 0 cs with
  | some (n, rest) => if h : n.isValidChar then some (Char.ofNatAux n h, rest) else none
  | none => none

/-- What follows a backslash. -/
def escape : Scanner Char
  | 'b' :: cs => some ('\x08', cs)
  | 't' :: cs => some ('\t', cs)
  | 'n' :: cs => some ('\n', cs)
  | 'f' :: cs => some ('\x0c', cs)
  | 'r' :: cs => some ('\r', cs)
  | '\x22' :: cs => some ('\x22', cs)
  | '\\' :: cs => some ('\\', cs)
  | 'u' :: cs => codePoint 4 cs
  | 'U' :: cs => codePoint 8 cs
  | _ => none

/-- The characters that stand for themselves in a string, on one line. -/
def isPlain (c : Char) : Bool :=
  c == '\t' || (0x20 ≤ c.toNat && c.toNat ≤ 0x7E) || isBeyondAscii c

theorem length_hexDigits {n acc v : Nat} {cs rest : List Char}
    (h : hexDigits n acc cs = some (v, rest)) : rest.length ≤ cs.length := by
  induction n generalizing acc cs with
  | zero => simp [hexDigits] at h; simp [h]
  | succ n ih =>
    cases cs with
    | nil => simp [hexDigits] at h
    | cons c cs =>
      simp only [hexDigits] at h
      split at h
      · exact Nat.le_trans (ih h) (Nat.le_succ _)
      · cases h

theorem length_codePoint {n : Nat} {c : Char} {cs rest : List Char}
    (h : codePoint n cs = some (c, rest)) : rest.length ≤ cs.length := by
  unfold codePoint at h
  split at h
  · next v rest hd =>
    by_cases hv : v.isValidChar
    · rw [dif_pos hv] at h
      cases h
      exact length_hexDigits hd
    · rw [dif_neg hv] at h
      cases h
  · cases h

theorem length_escape {c : Char} {cs rest : List Char} (h : escape cs = some (c, rest)) :
    rest.length < cs.length := by
  unfold escape at h
  split at h <;> first
    | (cases h; simp)
    | exact Nat.lt_succ_of_le (length_codePoint h)
    | cases h

/-- Leaves out what a backslash at the end of a line leaves out: blanks and line ends, with at least
one line end, and no blank line before it. -/
def skipFold (cs : List Char) : Option (List Char) := (newline (skipBlanks cs)).map skipLines
where
  /-- Leaves out blanks and line ends. -/
  skipLines : List Char → List Char
    | '\r' :: '\n' :: cs => skipLines cs
    | c :: cs => if isBlank c || c == '\n' then skipLines cs else c :: cs
    | [] => []

theorem length_skipLines (cs : List Char) : (skipFold.skipLines cs).length ≤ cs.length := by
  fun_induction skipFold.skipLines cs <;> simp_all <;> omega

theorem length_newline {cs rest : List Char} (h : newline cs = some rest) :
    rest.length < cs.length := by
  unfold newline at h
  split at h <;> cases h <;> simp only [List.length_cons] <;> omega

theorem length_skipFold {cs rest : List Char} (h : skipFold cs = some rest) :
    rest.length < cs.length := by
  unfold skipFold at h
  obtain ⟨t, ht, rfl⟩ := Option.map_eq_some_iff.1 h
  have h1 := length_newline ht
  have h2 := length_skipLines t
  have h3 : (skipBlanks cs).length ≤ cs.length := (List.dropWhile_suffix _).length_le
  omega

/-- The rest of a basic string after its opening quote. -/
def basicRest (cs : List Char) : Option (List Char × List Char) :=
  match cs with
  | [] => none
  | '\x22' :: rest => some ([], rest)
  | '\\' :: rest =>
    match _h : escape rest with
    | some (c, rest) => (basicRest rest).map fun (s, rest) => (c :: s, rest)
    | none => none
  | c :: rest =>
    if isPlain c then (basicRest rest).map fun (s, rest) => (c :: s, rest) else none
termination_by cs.length
decreasing_by
  · have := length_escape _h; simp; omega
  · simp

/-- The rest of a literal string after its opening quote. -/
def literalRest : Scanner (List Char)
  | [] => none
  | c :: rest =>
    if c = '\x27' then some ([], rest)
    else if isPlain c then (literalRest rest).map fun (s, rest) => (c :: s, rest)
    else none

/-- A string that spans lines ends with three quotes; up to two more in front of them belong to it.
Given the characters at a quote, this is the content and what follows, or how many quotes are content
if the string does not end here. -/
def closing (quote : Char) (cs : List Char) : (List Char × List Char) ⊕ Nat :=
  let run := (cs.takeWhile (· = quote)).length
  if run < 3 then .inr run
  else
    let kept := min run 5 - 3
    .inl (List.replicate kept quote, cs.drop (kept + 3))

/-- The rest of a basic string over several lines. -/
def longBasicRest (cs : List Char) : Option (List Char × List Char) :=
  match cs with
  | [] => none
  | '\x22' :: rest =>
    match closing '\x22' ('\x22' :: rest) with
    | .inl done => some done
    | .inr _ => (longBasicRest rest).map fun (s, rest) => ('\x22' :: s, rest)
  | '\\' :: rest =>
    match _h : escape rest with
    | some (c, rest) => (longBasicRest rest).map fun (s, rest) => (c :: s, rest)
    | none =>
      match _h : skipFold rest with
      | some rest => longBasicRest rest
      | none => none
  | '\r' :: '\n' :: rest => (longBasicRest rest).map fun (s, rest) => ('\n' :: s, rest)
  | c :: rest =>
    if isPlain c || c == '\n' then (longBasicRest rest).map fun (s, rest) => (c :: s, rest) else none
termination_by cs.length
decreasing_by
  · simp
  · have := length_escape _h; simp only [List.length_cons]; omega
  · have := length_skipFold _h; simp only [List.length_cons]; omega
  · simp only [List.length_cons]; omega
  · simp only [List.length_cons]; omega

/-- The rest of a literal string over several lines. -/
def longLiteralRest : Scanner (List Char)
  | [] => none
  | '\r' :: '\n' :: rest => (longLiteralRest rest).map fun (s, rest) => ('\n' :: s, rest)
  | c :: rest =>
    if c = '\x27' then
      match closing '\x27' (c :: rest) with
      | .inl done => some done
      | .inr _ => (longLiteralRest rest).map fun (s, rest) => (c :: s, rest)
    else if isPlain c || c == '\n' then (longLiteralRest rest).map fun (s, rest) => (c :: s, rest)
    else none

/-- A line end right after the opening quotes is left out. -/
def skipFirstNewline (cs : List Char) : List Char := (newline cs).getD cs

/-- A string on one line. -/
def shortString : Scanner String
  | c :: cs =>
    if c = '\x22' then (basicRest cs).map fun (s, rest) => (String.ofList s, rest)
    else if c = '\x27' then (literalRest cs).map fun (s, rest) => (String.ofList s, rest)
    else none
  | [] => none

/-- A string. -/
def string : Scanner String
  | '\x22' :: '\x22' :: '\x22' :: cs =>
    (longBasicRest (skipFirstNewline cs)).map fun (s, rest) => (String.ofList s, rest)
  | '\x27' :: '\x27' :: '\x27' :: cs =>
    (longLiteralRest (skipFirstNewline cs)).map fun (s, rest) => (String.ofList s, rest)
  | cs => shortString cs

/-! ## Keys -/

def isBareKeyChar (c : Char) : Bool := c.isAlphanum || c == '-' || c == '_'

/-- One part of a key. -/
def simpleKey (cs : List Char) : Option (String × List Char) :=
  match shortString cs with
  | some r => some r
  | none =>
    match cs.takeWhile isBareKeyChar with
    | [] => none
    | name => some (String.ofList name, cs.dropWhile isBareKeyChar)

/-- The parts of a key between dots, with blanks around each; at most `n` of them are read. -/
def keyParts : Nat → Scanner (List String)
  | 0, _ => none
  | n + 1, cs =>
    match simpleKey (skipBlanks cs) with
    | none => none
    | some (name, rest) =>
      match skipBlanks rest with
      | '.' :: rest => (keyParts n rest).map fun (names, rest) => (name :: names, rest)
      | rest => some ([name], rest)

/-- A key may have fewer parts than this, and values may be nested less deeply. -/
def depthLimit : Nat := 80

/-- A key: the path before its last part, and that part. -/
def key (cs : List Char) : Option ((List String × String) × List Char) :=
  match keyParts (depthLimit - 1) cs with
  | some (names, rest) => names.getLast?.map fun last => ((names.dropLast, last), rest)
  | none => none

end Builtins.Toml
