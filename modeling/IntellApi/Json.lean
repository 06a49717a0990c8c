import Mathlib.Data.Rat.Defs

/-!
# JSON texts

`parse` reads characters into tokens and tokens into a value, each with a
machine that keeps what it has read; it knows every text of the grammar and no
other. Numbers are exact. A text holds characters: a pair of surrogates is one
of them, and a surrogate alone is read as U+FFFD. Reading gives back an object
of texts that was written (`parse_stringify`).
-/

inductive Json
  | null
  | bool (b : Bool)
  | number (q : ℚ)
  | string (s : String)
  | array (elements : List Json)
  | object (members : List (String × Json))

namespace Json

def isNull : Json → Bool
  | null => true
  | bool _ | number _ | string _ | array _ | object _ => false

theorem isNull_iff {v : Json} : v.isNull = true ↔ v = null := by
  cases v <;> simp [isNull]

/-- The last one of several members with the same key counts. -/
def lookup (key : String) (members : List (String × Json)) : Option Json :=
  (members.reverse.find? (·.1 = key)).map (·.2)

/-! ## UTF-16 -/

def units (c : Char) : List Nat :=
  if c.toNat < 0x10000 then [c.toNat] else [0xd800 + (c.toNat - 0x10000) / 0x400, 0xdc00 + (c.toNat - 0x10000) % 0x400]

def isHigh (unit : Nat) : Bool := 0xd800 ≤ unit && unit < 0xdc00
def isLow (unit : Nat) : Bool := 0xdc00 ≤ unit && unit < 0xe000

def unitChar (unit : Nat) : Char := if isHigh unit || isLow unit then '\ufffd' else Char.ofNat unit

def ofUnits : List Nat → List Char
  | [] => []
  | [unit] => [unitChar unit]
  | high :: low :: rest =>
    if isHigh high && isLow low then Char.ofNat (0x10000 + (high - 0xd800) * 0x400 + (low - 0xdc00)) :: ofUnits rest
    else unitChar high :: ofUnits (low :: rest)

/-! ## Numbers -/

def digits (cs : List Char) : Nat := cs.foldl (fun n c => 10 * n + (c.toNat - 48)) 0

/-- What follows the separator, which may be left out, and the rest. -/
def fraction (cs : List Char) : Option (List Char × List Char) :=
  match cs with
  | '.' :: cs => if (cs.takeWhile Char.isDigit).isEmpty then none else some (cs.span Char.isDigit)
  | _ => some ([], cs)

def exponent (cs : List Char) : Option Int :=
  match cs with
  | [] => some 0
  | e :: cs =>
    let (sign, cs) : Int × List Char :=
      match cs with
      | '-' :: cs => (-1, cs)
      | '+' :: cs => (1, cs)
      | _ => (1, cs)
    if (e = 'e' || e = 'E') && !cs.isEmpty && cs.all Char.isDigit then some (sign * digits cs) else none

def number? (cs : List Char) : Option ℚ := do
  let (sign, cs) : ℚ × List Char :=
    match cs with
    | '-' :: cs => (-1, cs)
    | _ => (1, cs)
  let (whole, cs) := cs.span Char.isDigit
  guard (whole = ['0'] || (whole.head?.any (· ≠ '0')))
  let (part, cs) ← fraction cs
  let e ← exponent cs
  return sign * digits (whole ++ part) * 10 ^ (e - part.length)

/-! ## Tokens -/

inductive Token
  | punctuator (c : Char)
  | scalar (value : Json)

def isSpace (c : Char) : Bool := c = ' ' || c = '\t' || c = '\n' || c = '\r'

def isPunctuator (c : Char) : Bool := c = '\x7b' || c = '\x7d' || c = '[' || c = ']' || c = ',' || c = ':'

/-- A literal or a number. -/
def word? (cs : List Char) : Option Json :=
  if cs = ['n', 'u', 'l', 'l'] then some null
  else if cs = ['t', 'r', 'u', 'e'] then some (bool true)
  else if cs = ['f', 'a', 'l', 's', 'e'] then some (bool false)
  else (number? cs).map number

def hexDigit (c : Char) : Option Nat :=
  if '0' ≤ c && c ≤ '9' then some (c.toNat - 48)
  else if 'a' ≤ c && c ≤ 'f' then some (c.toNat - 87)
  else if 'A' ≤ c && c ≤ 'F' then some (c.toNat - 55)
  else none

/-- The character that a backslash and `c` stand for. -/
def unescape (c : Char) : Option Nat :=
  if c = '"' || c = '\\' || c = '/' then some c.toNat
  else if c = 'b' then some 0x08
  else if c = 'f' then some 0x0c
  else if c = 'n' then some 0x0a
  else if c = 'r' then some 0x0d
  else if c = 't' then some 0x09
  else none

/-- Where the reader is, and what it has read of a word or, in units, of a text. -/
inductive Lexer
  | between
  | word (read : List Char)
  | text (read : List Nat)
  | escape (read : List Nat)
  | hex (read : List Nat) (count value : Nat)

namespace Lexer

def start (c : Char) : Lexer × List Token :=
  if isSpace c then (between, [])
  else if c = '"' then (text [], [])
  else if isPunctuator c then (between, [.punctuator c])
  else (word [c], [])

def step (l : Lexer) (c : Char) : Option (Lexer × List Token) :=
  match l with
  | between => some (start c)
  | word read =>
    if isSpace c || c = '"' || isPunctuator c then do
      let value ← word? read
      return ((start c).1, .scalar value :: (start c).2)
    else some (word (read ++ [c]), [])
  | text read =>
    if c = '"' then some (between, [.scalar (string (String.ofList (ofUnits read)))])
    else if c = '\\' then some (escape read, [])
    else if c.toNat < 0x20 then none
    else some (text (read ++ units c), [])
  | escape read => if c = 'u' then some (hex read 0 0, []) else (unescape c).map fun unit => (text (read ++ [unit]), [])
  | hex read count value => do
    let d ← hexDigit c
    return if count = 3 then (text (read ++ [16 * value + d]), []) else (hex read (count + 1) (16 * value + d), [])

def finish : Lexer → Option (List Token)
  | between => some []
  | word read => (word? read).map fun value => [.scalar value]
  | text _ | escape _ | hex _ _ _ => none

def run : Lexer → List Char → Option (List Token)
  | l, [] => l.finish
  | l, c :: cs => (l.step c).bind fun r => (run r.1 cs).map (r.2 ++ ·)

end Lexer

/-! ## Values -/

/-- A container that has been opened, and the key of the member that is read. -/
inductive Frame
  | array (elements : List Json)
  | object (members : List (String × Json)) (key : String)

/-- What the reader waits for, inside of which containers. -/
inductive Parser
  | value (frames : List Frame)
  | elements (frames : List Frame)
  | members (frames : List Frame)
  | key (frames : List Frame) (members : List (String × Json))
  | colon (frames : List Frame) (members : List (String × Json)) (key : String)
  | done (frames : List Frame) (value : Json)

namespace Parser

def start (frames : List Frame) : Token → Option Parser
  | .scalar v => some (done frames v)
  | .punctuator '[' => some (elements frames)
  | .punctuator '\x7b' => some (members frames)
  | .punctuator _ => none

def step (p : Parser) (t : Token) : Option Parser :=
  match p, t with
  | value frames, t => start frames t
  | elements frames, .punctuator ']' => some (done frames (Json.array []))
  | elements frames, t => start (.array [] :: frames) t
  | members frames, .punctuator '\x7d' => some (done frames (object []))
  | members frames, .scalar (string k) => some (colon frames [] k)
  | key frames ms, .scalar (string k) => some (colon frames ms k)
  | colon frames ms k, .punctuator ':' => some (value (.object ms k :: frames))
  | done (.array es :: frames) v, .punctuator ',' => some (value (.array (es ++ [v]) :: frames))
  | done (.array es :: frames) v, .punctuator ']' => some (done frames (Json.array (es ++ [v])))
  | done (.object ms k :: frames) v, .punctuator ',' => some (key frames (ms ++ [(k, v)]))
  | done (.object ms k :: frames) v, .punctuator '\x7d' => some (done frames (object (ms ++ [(k, v)])))
  | _, _ => none

def finish : Parser → Option Json
  | done [] v => some v
  | _ => none

def run : Parser → List Token → Option Json
  | p, [] => p.finish
  | p, t :: ts => (p.step t).bind (run · ts)

end Parser

def parse (s : String) : Option Json := (Lexer.run .between s.toList).bind (Parser.run (.value []))

/-! ## Writing -/

def hexChar (d : Nat) : Char := Char.ofNat (if d < 10 then 48 + d else 87 + d)

def escapeChar (c : Char) : List Char :=
  if c = '"' then ['\\', '"']
  else if c = '\\' then ['\\', '\\']
  else if c.toNat = 0x08 then ['\\', 'b']
  else if c.toNat = 0x0c then ['\\', 'f']
  else if c.toNat = 0x0a then ['\\', 'n']
  else if c.toNat = 0x0d then ['\\', 'r']
  else if c.toNat = 0x09 then ['\\', 't']
  else if c.toNat < 0x20 then ['\\', 'u', '0', '0', hexChar (c.toNat / 16), hexChar (c.toNat % 16)]
  else [c]

def quote (s : String) : List Char := '"' :: (s.toList.flatMap escapeChar ++ ['"'])

def member (m : String × String) : List Char := quote m.1 ++ ':' :: quote m.2

def separated : List (String × String) → List Char
  | [] => []
  | [m] => member m
  | m :: m' :: ms => member m ++ ',' :: separated (m' :: ms)

/-- An object whose values are texts. -/
def stringify (ms : List (String × String)) : String := String.ofList ('\x7b' :: (separated ms ++ ['\x7d']))

/-! ## Reading what was written -/

theorem toNat_ofNat_of_lt {c : Char} {n : Nat} (h : n = c.toNat) : Char.ofNat n = c := by
  rw [h]
  exact Char.ofNat_toNat c

theorem not_surrogate (c : Char) : isHigh c.toNat = false ∧ isLow c.toNat = false := by
  have hv : c.toNat < 0xd800 ∨ 0xdfff < c.toNat ∧ c.toNat < 0x110000 := c.valid
  simp only [isHigh, isLow, Bool.and_eq_false_iff, decide_eq_false_iff_not]
  omega

theorem ofUnits_units (c : Char) (us : List Nat) : ofUnits (units c ++ us) = c :: ofUnits us := by
  obtain ⟨hh, hl⟩ := not_surrogate c
  have hv : c.toNat < 0xd800 ∨ 0xdfff < c.toNat ∧ c.toNat < 0x110000 := c.valid
  unfold units
  split
  · have hc : unitChar c.toNat = c := by
      rw [unitChar, hh, hl]
      exact Char.ofNat_toNat c
    cases us with
    | nil => simp [ofUnits, hc]
    | cons low rest => simp [ofUnits, hh, hc]
  · rename_i hn
    have hhigh : isHigh (0xd800 + (c.toNat - 0x10000) / 0x400) = true := by
      simp only [isHigh, Bool.and_eq_true, decide_eq_true_eq]
      omega
    have hlow : isLow (0xdc00 + (c.toNat - 0x10000) % 0x400) = true := by
      simp only [isLow, Bool.and_eq_true, decide_eq_true_eq]
      omega
    have hc : Char.ofNat (0x10000 + (0xd800 + (c.toNat - 0x10000) / 0x400 - 0xd800) * 0x400 +
        (0xdc00 + (c.toNat - 0x10000) % 0x400 - 0xdc00)) = c := toNat_ofNat_of_lt (by omega)
    simp only [List.cons_append, List.nil_append]
    rw [ofUnits, hhigh, hlow, Bool.and_self, if_pos rfl, hc]

theorem ofUnits_flatMap (cs : List Char) : ofUnits (cs.flatMap units) = cs := by
  induction cs with
  | nil => rfl
  | cons c cs ih => rw [List.flatMap_cons, ofUnits_units, ih]

namespace Lexer

variable {read : List Nat} {rest : List Char}

theorem run_cons {l l' : Lexer} {c : Char} {ts : List Token} (h : l.step c = some (l', ts)) :
    run l (c :: rest) = (run l' rest).map (ts ++ ·) := by
  rw [run, h, Option.bind_some]

theorem run_cons_nil {l l' : Lexer} {c : Char} (h : l.step c = some (l', [])) : run l (c :: rest) = run l' rest := by
  rw [run_cons h]
  exact Option.map_id'

theorem step_text {c : Char} (hq : c ≠ '"') (hb : c ≠ '\\') (h : ¬ c.toNat < 0x20) :
    (text read).step c = some (text (read ++ units c), []) := by
  rw [step, if_neg hq, if_neg hb, if_neg h]

/-- A backslash and one character. -/
theorem run_escape {c : Char} {unit : Nat} (hu : c ≠ 'u') (h : unescape c = some unit) :
    run (text read) ('\\' :: c :: rest) = run (text (read ++ [unit])) rest := by
  have hb : (text read).step '\\' = some (escape read, []) := rfl
  have hc : (escape read).step c = some (text (read ++ [unit]), []) := by rw [step, if_neg hu, h, Option.map_some]
  rw [run_cons_nil hb, run_cons_nil hc]

theorem hexDigit_hexChar : ∀ d : Fin 16, hexDigit (hexChar d) = some (d : Nat) := by decide

theorem run_hex {n : Nat} (h : n < 0x20) :
    run (text read) ('\\' :: 'u' :: '0' :: '0' :: hexChar (n / 16) :: hexChar (n % 16) :: rest) =
      run (text (read ++ [n])) rest := by
  have h0 : hexDigit '0' = some 0 := by decide
  have h1 : hexDigit (hexChar (n / 16)) = some (n / 16) := hexDigit_hexChar ⟨n / 16, by omega⟩
  have h2 : hexDigit (hexChar (n % 16)) = some (n % 16) := hexDigit_hexChar ⟨n % 16, by omega⟩
  have hs0 : (hex read 0 0).step '0' = some (hex read 1 0, []) := by rw [step, h0]; rfl
  have hs1 : (hex read 1 0).step '0' = some (hex read 2 0, []) := by rw [step, h0]; rfl
  have hs2 : (hex read 2 0).step (hexChar (n / 16)) = some (hex read 3 (n / 16), []) := by
    rw [step, h1]
    simp
  have hs3 : (hex read 3 (n / 16)).step (hexChar (n % 16)) = some (text (read ++ [n]), []) := by
    rw [step, h2]
    simp [Nat.div_add_mod]
  have hb : (text read).step '\\' = some (escape read, []) := rfl
  have hu : (escape read).step 'u' = some (hex read 0 0, []) := rfl
  rw [run_cons_nil hb, run_cons_nil hu, run_cons_nil hs0, run_cons_nil hs1, run_cons_nil hs2, run_cons_nil hs3]

theorem units_of_lt {c : Char} {n : Nat} (hc : c.toNat = n) (h : n < 0x10000) : units c = [n] := by
  rw [units, hc, if_pos h]

theorem run_escapeChar (c : Char) : run (text read) (escapeChar c ++ rest) = run (text (read ++ units c)) rest := by
  unfold escapeChar
  by_cases hq : c = '"'
  · rw [if_pos hq, hq]
    exact run_escape (by decide) rfl
  by_cases hb : c = '\\'
  · rw [if_neg hq, if_pos hb, hb]
    exact run_escape (by decide) rfl
  rw [if_neg hq, if_neg hb]
  by_cases h8 : c.toNat = 0x08
  · rw [if_pos h8, units_of_lt h8 (by decide)]
    exact run_escape (by decide) rfl
  by_cases hc : c.toNat = 0x0c
  · rw [if_neg h8, if_pos hc, units_of_lt hc (by decide)]
    exact run_escape (by decide) rfl
  by_cases ha : c.toNat = 0x0a
  · rw [if_neg h8, if_neg hc, if_pos ha, units_of_lt ha (by decide)]
    exact run_escape (by decide) rfl
  by_cases hd : c.toNat = 0x0d
  · rw [if_neg h8, if_neg hc, if_neg ha, if_pos hd, units_of_lt hd (by decide)]
    exact run_escape (by decide) rfl
  by_cases h9 : c.toNat = 0x09
  · rw [if_neg h8, if_neg hc, if_neg ha, if_neg hd, if_pos h9, units_of_lt h9 (by decide)]
    exact run_escape (by decide) rfl
  rw [if_neg h8, if_neg hc, if_neg ha, if_neg hd, if_neg h9]
  by_cases hn : c.toNat < 0x20
  · rw [if_pos hn, units_of_lt rfl (by omega)]
    exact run_hex hn
  · rw [if_neg hn]
    exact run_cons_nil (step_text hq hb hn)

theorem run_flatMap_escapeChar (cs : List Char) :
    run (text read) (cs.flatMap escapeChar ++ rest) = run (text (read ++ cs.flatMap units)) rest := by
  induction cs generalizing read with
  | nil => rw [List.flatMap_nil, List.flatMap_nil, List.append_nil, List.nil_append]
  | cons c cs ih => rw [List.flatMap_cons, List.append_assoc, run_escapeChar, ih, List.flatMap_cons, List.append_assoc]

theorem run_quote (s : String) : run between (quote s ++ rest) = (run between rest).map (.scalar (string s) :: ·) := by
  have hopen : between.step '"' = some (text [], []) := rfl
  have hclose : (text (s.toList.flatMap units)).step '"' =
      some (between, [.scalar (string s)]) := by
    rw [step, if_pos rfl, ofUnits_flatMap, String.ofList_toList]
  rw [quote, List.cons_append, List.append_assoc, run_cons_nil hopen, run_flatMap_escapeChar, List.nil_append,
    List.singleton_append, run_cons hclose]
  rfl

theorem run_punctuator {c : Char} (h : start c = (between, [.punctuator c])) :
    run between (c :: rest) = (run between rest).map (.punctuator c :: ·) := by
  have hs : between.step c = some (between, [.punctuator c]) := congrArg some h
  rw [run_cons hs]
  rfl

end Lexer

def memberTokens (m : String × String) : List Token :=
  [.scalar (string m.1), .punctuator ':', .scalar (string m.2)]

def separatedTokens : List (String × String) → List Token
  | [] => []
  | [m] => memberTokens m
  | m :: m' :: ms => memberTokens m ++ .punctuator ',' :: separatedTokens (m' :: ms)

def ofTexts (ms : List (String × String)) : List (String × Json) := ms.map fun m => (m.1, string m.2)

theorem run_member (m : String × String) (rest : List Char) :
    Lexer.run .between (member m ++ rest) = (Lexer.run .between rest).map (memberTokens m ++ ·) := by
  rw [member, List.append_assoc, List.cons_append, Lexer.run_quote, Lexer.run_punctuator rfl, Lexer.run_quote,
    Option.map_map, Option.map_map]
  rfl

theorem run_separated (ms : List (String × String)) (rest : List Char) :
    Lexer.run .between (separated ms ++ rest) = (Lexer.run .between rest).map (separatedTokens ms ++ ·) := by
  induction ms using separated.induct with
  | case1 => exact Option.map_id'.symm
  | case2 m => exact run_member m rest
  | case3 m m' ms ih =>
    rw [separated, List.append_assoc, List.cons_append, run_member, Lexer.run_punctuator rfl, ih, Option.map_map,
      Option.map_map, separatedTokens]
    congr 1

theorem run_key {frames : List Frame} (m : String × String) (ms : List (String × String))
    (before : List (String × Json)) (ts : List Token) :
    Parser.run (.key frames before) (separatedTokens (m :: ms) ++ .punctuator '\x7d' :: ts) =
      Parser.run (.done frames (object (before ++ ofTexts (m :: ms)))) ts := by
  induction ms generalizing m before with
  | nil => rfl
  | cons m' ms ih =>
    have hstep : Parser.run (.key frames before) (separatedTokens (m :: m' :: ms) ++ .punctuator '\x7d' :: ts) =
        Parser.run (.key frames (before ++ [(m.1, string m.2)]))
          (separatedTokens (m' :: ms) ++ .punctuator '\x7d' :: ts) := by
      rw [separatedTokens, List.append_assoc, List.cons_append]
      rfl
    rw [hstep, ih, List.append_assoc]
    rfl

theorem parse_stringify (ms : List (String × String)) : parse (stringify ms) = some (object (ofTexts ms)) := by
  have hlex : Lexer.run .between (stringify ms).toList =
      some (.punctuator '\x7b' :: (separatedTokens ms ++ [.punctuator '\x7d'])) := by
    rw [stringify, String.toList_ofList, Lexer.run_punctuator rfl, run_separated, Lexer.run_punctuator rfl]
    rfl
  rw [parse, hlex, Option.bind_some]
  cases ms with
  | nil => rfl
  | cons m ms =>
    have hkey := @run_key [] m ms [] []
    cases ms with
    | nil => rfl
    | cons m' ms =>
      rw [separatedTokens, List.append_assoc, List.cons_append] at hkey ⊢
      exact hkey

end Json
