import CloudDrive.ByteStrings
import Mathlib.Tactic.SplitIfs

/-!
# The lexical structure of SQL text

Statement texts as MySQL reads them in its default mode: words, quoted
literals in which a doubled quote stands for itself and a backslash escapes,
quoted names, and the three kinds of comments.  The lexer is a state machine
over the bytes, so the tokens of a concatenation can be computed part by part.
-/

namespace CloudDrive.Sql

inductive Token where
  /-- A keyword, an identifier or a number. -/
  | word (bytes : Bytes)
  /-- The content of a literal in single or double quotes. -/
  | text (bytes : Bytes)
  /-- An identifier in backticks. -/
  | name (bytes : Bytes)
  | symbol (byte : UInt8)
deriving DecidableEq

/-- What the bytes read so far leave open; pending bytes are kept in reverse. -/
inductive LexMode where
  | between
  | word (bytes : Bytes)
  | quoted (quote : UInt8) (bytes : Bytes)
  /-- After a backslash in a literal. -/
  | escaped (quote : UInt8) (bytes : Bytes)
  /-- After a quote that ends a literal unless it is doubled. -/
  | closing (quote : UInt8) (bytes : Bytes)
  | dash
  | dashes
  | slash
  | lineComment
  | commentOpen
  | blockComment
  | blockStar

/-- The mode and the tokens read so far, the last one first. -/
structure LexState where
  mode : LexMode
  tokens : List Token

def isWordByte (byte : UInt8) : Bool :=
  isDigit byte || (65 ≤ byte && byte ≤ 90) || (97 ≤ byte && byte ≤ 122) ||
    byte = 95 || byte = 36 || 128 ≤ byte

def isSpace (byte : UInt8) : Bool := byte = 32 || (9 ≤ byte && byte ≤ 13)

/-- The token of a literal whose bytes are kept in reverse. -/
def literal (quote : UInt8) (bytes : Bytes) : Token :=
  if quote = 96 then .name bytes.reverse else .text bytes.reverse

/-- What a backslash and a byte stand for, in reverse. -/
def unescape (byte : UInt8) : Bytes :=
  if byte = 110 then [10]
  else if byte = 116 then [9]
  else if byte = 114 then [13]
  else if byte = 98 then [8]
  else if byte = 48 then [0]
  else if byte = 90 then [26]
  else if byte = 37 || byte = 95 then [byte, 92]
  else [byte]

/-- Read a byte between two tokens. -/
def lexBetween (tokens : List Token) (byte : UInt8) : LexState :=
  if isWordByte byte then ⟨.word [byte], tokens⟩
  else if isSpace byte then ⟨.between, tokens⟩
  else if byte = 39 || byte = 34 || byte = 96 then ⟨.quoted byte [], tokens⟩
  else if byte = 35 then ⟨.lineComment, tokens⟩
  else if byte = 45 then ⟨.dash, tokens⟩
  else if byte = 47 then ⟨.slash, tokens⟩
  else ⟨.between, .symbol byte :: tokens⟩

def lexStep : LexState → UInt8 → LexState
  | ⟨.between, tokens⟩, byte => lexBetween tokens byte
  | ⟨.word bytes, tokens⟩, byte =>
      if isWordByte byte then ⟨.word (byte :: bytes), tokens⟩
      else lexBetween (.word bytes.reverse :: tokens) byte
  | ⟨.quoted quote bytes, tokens⟩, byte =>
      if byte = quote then ⟨.closing quote bytes, tokens⟩
      else if byte = 92 && quote ≠ 96 then ⟨.escaped quote bytes, tokens⟩
      else ⟨.quoted quote (byte :: bytes), tokens⟩
  | ⟨.escaped quote bytes, tokens⟩, byte =>
      ⟨.quoted quote (unescape byte ++ bytes), tokens⟩
  | ⟨.closing quote bytes, tokens⟩, byte =>
      if byte = quote then ⟨.quoted quote (quote :: bytes), tokens⟩
      else lexBetween (literal quote bytes :: tokens) byte
  | ⟨.dash, tokens⟩, byte =>
      if byte = 45 then ⟨.dashes, tokens⟩
      else lexBetween (.symbol 45 :: tokens) byte
  -- Two dashes begin a comment only before a blank or a control character.
  | ⟨.dashes, tokens⟩, byte =>
      if byte = 45 then ⟨.dashes, .symbol 45 :: tokens⟩
      else if byte = 10 then ⟨.between, tokens⟩
      else if byte ≤ 32 then ⟨.lineComment, tokens⟩
      else lexBetween (.symbol 45 :: .symbol 45 :: tokens) byte
  | ⟨.slash, tokens⟩, byte =>
      if byte = 42 then ⟨.commentOpen, tokens⟩
      else lexBetween (.symbol 47 :: tokens) byte
  | ⟨.lineComment, tokens⟩, byte =>
      if byte = 10 then ⟨.between, tokens⟩ else ⟨.lineComment, tokens⟩
  -- The text of a comment that opens with an exclamation mark is executed.
  | ⟨.commentOpen, tokens⟩, byte =>
      if byte = 33 then ⟨.between, .symbol 33 :: tokens⟩
      else if byte = 42 then ⟨.blockStar, tokens⟩
      else ⟨.blockComment, tokens⟩
  | ⟨.blockComment, tokens⟩, byte =>
      if byte = 42 then ⟨.blockStar, tokens⟩ else ⟨.blockComment, tokens⟩
  | ⟨.blockStar, tokens⟩, byte =>
      if byte = 47 then ⟨.between, tokens⟩
      else if byte = 42 then ⟨.blockStar, tokens⟩
      else ⟨.blockComment, tokens⟩

def lexFrom (state : LexState) (bytes : Bytes) : LexState :=
  bytes.foldl lexStep state

/-- Complete a pending word or literal. -/
def LexState.settle : LexState → LexState
  | ⟨.word bytes, tokens⟩ => ⟨.between, .word bytes.reverse :: tokens⟩
  | ⟨.closing quote bytes, tokens⟩ => ⟨.between, literal quote bytes :: tokens⟩
  | state => state

/-- The tokens at the end of the text; an open literal or comment is an
error. -/
def LexState.finish (state : LexState) : Option (List Token) :=
  match state.settle with
  | ⟨.between, tokens⟩ | ⟨.lineComment, tokens⟩ | ⟨.dashes, tokens⟩ =>
      some tokens.reverse
  | ⟨.dash, tokens⟩ => some (Token.symbol 45 :: tokens).reverse
  | ⟨.slash, tokens⟩ => some (Token.symbol 47 :: tokens).reverse
  | _ => none

def lex (text : Bytes) : Option (List Token) :=
  (lexFrom ⟨.between, []⟩ text).finish

/-- Opening minus closing parentheses. -/
def depth (tokens : List Token) : Int :=
  tokens.count (.symbol 40) - tokens.count (.symbol 41)

/-- The tokens of a text in which literals, comments and parentheses are
closed. -/
def readTokens (text : Bytes) : Option (List Token) :=
  match lex text with
  | none => none
  | some tokens => if depth tokens = 0 then some tokens else none

@[simp]
theorem lexFrom_append (state : LexState) (first second : Bytes) :
    lexFrom state (first ++ second) = lexFrom (lexFrom state first) second :=
  List.foldl_append

@[simp]
theorem lexFrom_nil (state : LexState) : lexFrom state [] = state := rfl

@[simp]
theorem lexFrom_cons (state : LexState) (byte : UInt8) (bytes : Bytes) :
    lexFrom state (byte :: bytes) = lexFrom (lexStep state byte) bytes := rfl

theorem lexBetween_frame (front tokens : List Token) (byte : UInt8) :
    lexBetween (front ++ tokens) byte =
      ⟨(lexBetween front byte).mode,
        (lexBetween front byte).tokens ++ tokens⟩ := by
  unfold lexBetween
  split_ifs <;> rfl

/-- A byte is read the same way whatever tokens stand before it. -/
theorem lexStep_frame (mode : LexMode) (tokens : List Token) (byte : UInt8) :
    lexStep ⟨mode, tokens⟩ byte =
      ⟨(lexStep ⟨mode, []⟩ byte).mode,
        (lexStep ⟨mode, []⟩ byte).tokens ++ tokens⟩ := by
  cases mode with
  | between => exact lexBetween_frame [] tokens byte
  | word bytes =>
      simp only [lexStep]
      split
      · rfl
      · exact lexBetween_frame [.word bytes.reverse] tokens byte
  | quoted quote bytes =>
      simp only [lexStep]
      split_ifs <;> rfl
  | escaped quote bytes => rfl
  | closing quote bytes =>
      simp only [lexStep]
      split
      · rfl
      · exact lexBetween_frame [literal quote bytes] tokens byte
  | dash =>
      simp only [lexStep]
      split
      · rfl
      · exact lexBetween_frame [.symbol 45] tokens byte
  | dashes =>
      simp only [lexStep]
      split_ifs
      · rfl
      · rfl
      · rfl
      · exact lexBetween_frame [.symbol 45, .symbol 45] tokens byte
  | slash =>
      simp only [lexStep]
      split
      · rfl
      · exact lexBetween_frame [.symbol 47] tokens byte
  | lineComment | commentOpen | blockComment | blockStar =>
      simp only [lexStep]
      split_ifs <;> rfl

theorem lexFrom_frame (mode : LexMode) (tokens : List Token) (bytes : Bytes) :
    lexFrom ⟨mode, tokens⟩ bytes =
      ⟨(lexFrom ⟨mode, []⟩ bytes).mode,
        (lexFrom ⟨mode, []⟩ bytes).tokens ++ tokens⟩ := by
  induction bytes generalizing mode tokens with
  | nil => rfl
  | cons byte bytes inductionHypothesis =>
      simp only [lexFrom_cons]
      rw [lexStep_frame mode tokens byte]
      rw [inductionHypothesis _ ((lexStep ⟨mode, []⟩ byte).tokens ++ tokens)]
      rw [inductionHypothesis _ (lexStep ⟨mode, []⟩ byte).tokens]
      simp

theorem isWordByte_of_isDigit {byte : UInt8} (holds : isDigit byte = true) :
    isWordByte byte = true := by
  simp [isWordByte, holds]

/-- The bytes of a word are collected. -/
theorem lexFrom_word (bytes pending : Bytes) (tokens : List Token)
    (words : bytes.all isWordByte = true) :
    lexFrom ⟨.word pending, tokens⟩ bytes =
      ⟨.word (bytes.reverse ++ pending), tokens⟩ := by
  induction bytes generalizing pending with
  | nil => rfl
  | cons byte bytes inductionHypothesis =>
      simp only [List.all_cons, Bool.and_eq_true] at words
      rw [lexFrom_cons, lexStep, if_pos words.1, inductionHypothesis _ words.2]
      simp

/-- A number is one word. -/
theorem lexFrom_decimal (value : UInt64) (tokens : List Token) :
    lexFrom ⟨.between, tokens⟩ (decimal value) =
      ⟨.word (decimal value).reverse, tokens⟩ := by
  have digits := decimal_all value
  cases number : decimal value with
  | nil => exact (decimal_ne_nil value number).elim
  | cons byte bytes =>
      rw [number, List.all_cons, Bool.and_eq_true] at digits
      have first := isWordByte_of_isDigit digits.1
      have rest : bytes.all isWordByte = true := by
        rw [List.all_eq_true] at digits ⊢
        exact fun byte member => isWordByte_of_isDigit (digits.2 byte member)
      rw [lexFrom_cons, lexStep, lexBetween, if_pos first,
        lexFrom_word _ _ _ rest]
      simp

/-- A text that can stand between single quotes as it is. -/
def Safe (bytes : Bytes) : Prop := ∀ byte ∈ bytes, byte ≠ 39 ∧ byte ≠ 92

instance (bytes : Bytes) : Decidable (Safe bytes) :=
  List.decidableBAll (fun byte => byte ≠ 39 ∧ byte ≠ 92) bytes

/-- A text whose literal means the text itself: a backslash stays where it
escapes a wildcard. -/
inductive Verbatim : Bytes → Prop where
  | nil : Verbatim []
  | plain {byte : UInt8} {bytes : Bytes} (noQuote : byte ≠ 39)
      (noBackslash : byte ≠ 92) (rest : Verbatim bytes) :
      Verbatim (byte :: bytes)
  | wildcard {byte : UInt8} {bytes : Bytes} (kept : byte = 37 ∨ byte = 95)
      (rest : Verbatim bytes) : Verbatim (92 :: byte :: bytes)

theorem Safe.verbatim {bytes : Bytes} (safe : Safe bytes) : Verbatim bytes := by
  induction bytes with
  | nil => exact .nil
  | cons byte bytes inductionHypothesis =>
      obtain ⟨noQuote, noBackslash⟩ := safe byte (by simp)
      exact .plain noQuote noBackslash (inductionHypothesis fun other member =>
        safe other (List.mem_cons_of_mem byte member))

theorem unescape_wildcard {byte : UInt8} (kept : byte = 37 ∨ byte = 95) :
    unescape byte = [byte, 92] := by
  rcases kept with rfl | rfl <;> rfl

/-- A byte of a literal that is neither a quote nor a backslash. -/
theorem lexStep_plain {byte : UInt8} (noQuote : byte ≠ 39)
    (noBackslash : byte ≠ 92) (pending : Bytes) (tokens : List Token) :
    lexStep ⟨.quoted 39 pending, tokens⟩ byte =
      ⟨.quoted 39 (byte :: pending), tokens⟩ := by
  rw [lexStep, if_neg noQuote, if_neg (by simp [noBackslash])]

/-- The bytes of such a text are collected in a literal. -/
theorem Verbatim.lexFrom {bytes : Bytes} (verbatim : Verbatim bytes)
    (pending : Bytes) (tokens : List Token) :
    lexFrom ⟨.quoted 39 pending, tokens⟩ bytes =
      ⟨.quoted 39 (bytes.reverse ++ pending), tokens⟩ := by
  induction verbatim generalizing pending with
  | nil => rfl
  | plain noQuote noBackslash rest inductionHypothesis =>
      rw [lexFrom_cons, lexStep_plain noQuote noBackslash, inductionHypothesis]
      simp
  | @wildcard byte bytes kept rest inductionHypothesis =>
      change Sql.lexFrom ⟨.quoted 39 (unescape byte ++ pending), tokens⟩ bytes = _
      rw [unescape_wildcard kept, inductionHypothesis]
      simp

/-- A part of such a text leaves the literal open. -/
theorem Verbatim.take_open {bytes : Bytes} (verbatim : Verbatim bytes)
    (count : Nat) (pending : Bytes) (tokens : List Token) :
    (Sql.lexFrom ⟨.quoted 39 pending, tokens⟩ (bytes.take count)).finish =
      none := by
  induction verbatim generalizing count pending with
  | nil =>
      rw [List.take_nil]
      rfl
  | plain noQuote noBackslash rest inductionHypothesis =>
      cases count with
      | zero => rfl
      | succ count =>
          rw [List.take_succ_cons, lexFrom_cons, lexStep_plain noQuote noBackslash]
          exact inductionHypothesis count _
  | wildcard kept rest inductionHypothesis =>
      match count with
      | 0 | 1 => rfl
      | count + 2 => exact inductionHypothesis count _

/-- `mysql_real_escape_string`. -/
def escapeByte (byte : UInt8) : Bytes :=
  if byte = 0 then [92, 48]
  else if byte = 10 then [92, 110]
  else if byte = 13 then [92, 114]
  else if byte = 26 then [92, 90]
  else if byte = 39 || byte = 34 || byte = 92 then [92, byte]
  else [byte]

def escape (bytes : Bytes) : Bytes := bytes.flatMap escapeByte

theorem lexFrom_escapeByte (byte : UInt8) (pending : Bytes)
    (tokens : List Token) :
    lexFrom ⟨.quoted 39 pending, tokens⟩ (escapeByte byte) =
      ⟨.quoted 39 (byte :: pending), tokens⟩ := by
  by_cases plain : byte = 0 ∨ byte = 10 ∨ byte = 13 ∨ byte = 26 ∨ byte = 39 ∨
      byte = 34 ∨ byte = 92
  · rcases plain with rfl | rfl | rfl | rfl | rfl | rfl | rfl <;> rfl
  · simp only [not_or] at plain
    obtain ⟨nul, newline, carriage, substitute, quote, double, backslash⟩ := plain
    simp [escapeByte, lexStep, nul, newline, carriage, substitute, quote, double,
      backslash]

/-- An escaped text is read back. -/
theorem lexFrom_escape (bytes pending : Bytes) (tokens : List Token) :
    lexFrom ⟨.quoted 39 pending, tokens⟩ (escape bytes) =
      ⟨.quoted 39 (bytes.reverse ++ pending), tokens⟩ := by
  induction bytes generalizing pending with
  | nil => rfl
  | cons byte bytes inductionHypothesis =>
      rw [escape, List.flatMap_cons, lexFrom_append, lexFrom_escapeByte]
      rw [escape] at inductionHypothesis
      rw [inductionHypothesis]
      simp

theorem length_escape (bytes : Bytes) :
    (escape bytes).length ≤ 2 * bytes.length := by
  have one : ∀ byte, (escapeByte byte).length ≤ 2 := by
    intro byte
    unfold escapeByte
    split_ifs <;> simp
  induction bytes with
  | nil => simp [escape]
  | cons byte bytes inductionHypothesis =>
      rw [escape] at inductionHypothesis ⊢
      rw [List.flatMap_cons, List.length_append, List.length_cons]
      have := one byte
      omega

/-- A byte that ends a word and does not double a quote is read as if nothing
were pending. -/
theorem lexStep_settle {state : LexState} {byte : UInt8}
    (noWord : isWordByte byte = false) (noQuote : byte ≠ 39)
    (quote : ∀ bytes other, state.mode = .closing other bytes → other = 39) :
    lexStep state.settle byte = lexStep state byte := by
  obtain ⟨mode, tokens⟩ := state
  cases mode with
  | word bytes => simp [LexState.settle, lexStep, noWord]
  | closing other bytes =>
      obtain rfl := quote bytes other rfl
      simp [LexState.settle, lexStep, noQuote]
  | _ => rfl

end CloudDrive.Sql
