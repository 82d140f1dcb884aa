import CloudDrive.SqlLexer
import Mathlib.Data.List.Count
import Mathlib.Data.List.Forall2

/-!
# Statements with parameters

A statement text is a list of parts: constant text, numbers, and texts between
single quotes that are spliced in as they are or escaped.  Its tokens follow
the parts when the spliced texts are safe, and a table of patterns recognises
them and gives the parameters back.
-/

namespace CloudDrive.Sql

inductive Part where
  | text (bytes : Bytes)
  | number (value : UInt64)
  /-- A text between quotes, spliced in as it is. -/
  | raw (bytes : Bytes)
  /-- A text between quotes, escaped. -/
  | escaped (bytes : Bytes)

/-- The place of a token in a pattern. -/
inductive Slot where
  | exactly (token : Token)
  | number
  | text
deriving DecidableEq

inductive Param where
  | number (value : Nat)
  | text (bytes : Bytes)
deriving DecidableEq

namespace Part

def render : Part → Bytes
  | text bytes => bytes
  | number value => decimal value
  | raw bytes => 39 :: (bytes ++ [39])
  | escaped bytes => 39 :: (escape bytes ++ [39])

def tokens : Part → List Token
  | text bytes => (lexFrom ⟨.between, []⟩ bytes).settle.tokens.reverse
  | number value => [.word (decimal value)]
  | raw bytes | escaped bytes => [.text bytes]

def pattern : Part → List Slot
  | text bytes =>
      (lexFrom ⟨.between, []⟩ bytes).settle.tokens.reverse.map Slot.exactly
  | number _ => [.number]
  | raw _ | escaped _ => [.text]

def params : Part → List Param
  | text _ => []
  | number value => [.number value.toNat]
  | raw bytes | escaped bytes => [.text bytes]

def Clean : Part → Prop
  | raw bytes => Verbatim bytes
  | _ => True

end Part

def render (parts : List Part) : Bytes := parts.flatMap Part.render

def tokensOf (parts : List Part) : List Token := parts.flatMap Part.tokens

def patternOf (parts : List Part) : List Slot := parts.flatMap Part.pattern

def paramsOf (parts : List Part) : List Param := parts.flatMap Part.params

/-- Whether constant text ends in a word, if it leaves nothing else open. -/
def endsInWord (bytes : Bytes) : Option Bool :=
  match (lexFrom ⟨.between, []⟩ bytes).mode with
  | .between => some false
  | .word _ => some true
  | _ => none

/-- The text ends the token before it. -/
def startsApart (bytes : Bytes) : Bool :=
  bytes.head?.any fun byte => !isWordByte byte && byte ≠ 39

/-- Tokens do not run together at the borders of the parts; `pending` says
whether one may be continued. -/
def wellJoined : Bool → List Part → Bool
  | _, [] => true
  | pending, .text bytes :: parts =>
      (!pending || startsApart bytes) &&
        match endsInWord bytes with
        | some continued => wellJoined continued parts
        | none => false
  | pending, _ :: parts => !pending && wellJoined true parts

/-- Whether the last token may be continued after the parts. -/
def pendingAfter : Bool → List Part → Bool
  | pending, [] => pending
  | _, .text bytes :: parts =>
      pendingAfter (endsInWord bytes = some true) parts
  | _, _ :: parts => pendingAfter true parts

/-- The lexer has read whole parts and may hold the last token. -/
def LexState.Ready (state : LexState) (pending : Bool) : Prop :=
  if pending then
    (∃ bytes, state.mode = .word bytes) ∨ ∃ bytes, state.mode = .closing 39 bytes
  else state.mode = .between

namespace LexState

variable {state : LexState}

theorem ready_settle {pending : Bool} (ready : state.Ready pending) :
    state.settle = ⟨.between, state.settle.tokens⟩ := by
  obtain ⟨mode, tokens⟩ := state
  cases pending with
  | false =>
      obtain rfl : mode = .between := ready
      rfl
  | true =>
      rcases ready with ⟨bytes, same⟩ | ⟨bytes, same⟩ <;> cases same <;> rfl

/-- Text that stands apart is read as if nothing were pending. -/
theorem lexFrom_settle {pending : Bool} (ready : state.Ready pending)
    {bytes : Bytes} (apart : (!pending || startsApart bytes) = true) :
    lexFrom state bytes = lexFrom state.settle bytes := by
  obtain ⟨mode, tokens⟩ := state
  cases pending with
  | false =>
      obtain rfl : mode = .between := ready
      rfl
  | true =>
      cases bytes with
      | nil => simp [startsApart] at apart
      | cons byte bytes =>
          simp only [startsApart, Bool.not_true, Bool.false_or, List.head?_cons,
            Option.any_some, Bool.and_eq_true, Bool.not_eq_true',
            decide_eq_true_eq] at apart
          rw [lexFrom_cons, lexFrom_cons, lexStep_settle apart.1 apart.2]
          intro pendingBytes quote same
          rcases ready with ⟨other, isWord⟩ | ⟨other, isClosing⟩
          · cases isWord.symm.trans same
          · cases isClosing.symm.trans same
            rfl

/-- Constant text adds its tokens to those before it. -/
theorem lexFrom_text {pending : Bool} (ready : state.Ready pending)
    {bytes : Bytes} (apart : (!pending || startsApart bytes) = true)
    {continued : Bool} (ends : endsInWord bytes = some continued) :
    (lexFrom state bytes).Ready continued ∧
      (lexFrom state bytes).settle =
        ⟨.between, (Part.text bytes).tokens.reverse ++ state.settle.tokens⟩ := by
  rw [lexFrom_settle ready apart, ready_settle ready, lexFrom_frame]
  simp only [endsInWord] at ends
  simp only [Part.tokens, List.reverse_reverse]
  generalize lexFrom ⟨.between, []⟩ bytes = read at ends ⊢
  obtain ⟨mode, tokens⟩ := read
  cases mode with
  | between =>
      cases ends
      exact ⟨rfl, rfl⟩
  | word pendingBytes =>
      cases ends
      exact ⟨Or.inl ⟨_, rfl⟩, rfl⟩
  | _ => cases ends

/-- A clean parameter becomes one pending token. -/
theorem lexFrom_parameter {part : Part} (clean : part.Clean)
    (parameter : ∀ bytes, part ≠ .text bytes) (tokens : List Token) :
    (lexFrom ⟨.between, tokens⟩ part.render).Ready true ∧
      (lexFrom ⟨.between, tokens⟩ part.render).settle =
        ⟨.between, part.tokens.reverse ++ tokens⟩ := by
  cases part with
  | text bytes => exact (parameter bytes rfl).elim
  | number value =>
      rw [Part.render, lexFrom_decimal]
      exact ⟨Or.inl ⟨_, rfl⟩, by simp [settle, Part.tokens]⟩
  | raw bytes =>
      have read : lexFrom ⟨.between, tokens⟩ (Part.raw bytes).render =
          ⟨.closing 39 bytes.reverse, tokens⟩ := by
        rw [Part.render, lexFrom_cons, lexFrom_append]
        change lexFrom (lexFrom ⟨.quoted 39 [], tokens⟩ bytes) [39] = _
        rw [Verbatim.lexFrom clean, List.append_nil]
        rfl
      rw [read]
      exact ⟨Or.inr ⟨_, rfl⟩, by simp [settle, literal, Part.tokens]⟩
  | escaped bytes =>
      have read : lexFrom ⟨.between, tokens⟩ (Part.escaped bytes).render =
          ⟨.closing 39 bytes.reverse, tokens⟩ := by
        rw [Part.render, lexFrom_cons, lexFrom_append]
        change lexFrom (lexFrom ⟨.quoted 39 [], tokens⟩ (escape bytes)) [39] = _
        rw [lexFrom_escape, List.append_nil]
        rfl
      rw [read]
      exact ⟨Or.inr ⟨_, rfl⟩, by simp [settle, literal, Part.tokens]⟩

end LexState

theorem lexFrom_render {parts : List Part} (clean : ∀ part ∈ parts, part.Clean)
    {pending : Bool} (joined : wellJoined pending parts = true)
    {state : LexState} (ready : state.Ready pending) :
    (lexFrom state (render parts)).Ready (pendingAfter pending parts) ∧
      (lexFrom state (render parts)).settle =
        ⟨.between, (tokensOf parts).reverse ++ state.settle.tokens⟩ := by
  induction parts generalizing pending state with
  | nil => exact ⟨ready, LexState.ready_settle ready⟩
  | cons part parts inductionHypothesis =>
      have cleanRest : ∀ other ∈ parts, other.Clean :=
        fun other member => clean other (List.mem_cons_of_mem part member)
      rw [render] at inductionHypothesis
      rw [render, List.flatMap_cons, lexFrom_append, tokensOf, List.flatMap_cons]
      by_cases constant : ∃ bytes, part = .text bytes
      · obtain ⟨bytes, rfl⟩ := constant
        simp only [wellJoined, Bool.and_eq_true] at joined
        obtain ⟨apart, joinedRest⟩ := joined
        split at joinedRest
        · rename_i continued ends
          obtain ⟨readyRest, settled⟩ :=
            LexState.lexFrom_text ready apart ends
          obtain ⟨readyEnd, settledEnd⟩ :=
            inductionHypothesis cleanRest joinedRest readyRest
          rw [Part.render]
          refine ⟨?_, ?_⟩
          · simpa [pendingAfter, ends] using readyEnd
          · rw [settledEnd, settled]
            simp [tokensOf]
        · cases joinedRest
      · have parameter : ∀ bytes, part ≠ .text bytes :=
          fun bytes same => constant ⟨bytes, same⟩
        have apart : pending = false ∧ wellJoined true parts = true ∧
            pendingAfter pending (part :: parts) = pendingAfter true parts := by
          cases part with
          | text bytes => exact (parameter bytes rfl).elim
          | _ => simpa [wellJoined, pendingAfter] using joined
        obtain ⟨rfl, joinedRest, after⟩ := apart
        obtain ⟨mode, before⟩ := state
        obtain rfl : mode = .between := ready
        obtain ⟨readyRest, settled⟩ := LexState.lexFrom_parameter
          (clean part (by simp)) parameter before
        obtain ⟨readyEnd, settledEnd⟩ :=
          inductionHypothesis cleanRest joinedRest readyRest
        refine ⟨by rw [after]; exact readyEnd, ?_⟩
        rw [settledEnd, settled]
        simp [tokensOf, LexState.settle]

/-- The tokens of a statement follow its parts. -/
theorem lex_render {parts : List Part} (clean : ∀ part ∈ parts, part.Clean)
    (joined : wellJoined false parts = true) :
    lex (render parts) = some (tokensOf parts) := by
  have settled := (lexFrom_render clean joined
    (show LexState.Ready ⟨.between, []⟩ false from rfl)).2
  rw [lex, LexState.finish, settled]
  simp [LexState.settle]

/-- The parameters of a text whose tokens follow a pattern. -/
def matchTokens : List Slot → List Token → Option (List Param)
  | [], [] => some []
  | .exactly expected :: slots, token :: tokens =>
      if token = expected then matchTokens slots tokens else none
  | .number :: slots, .word digits :: tokens =>
      if digits.all isDigit then
        (matchTokens slots tokens).map (.number (decimalValue digits) :: ·)
      else none
  | .text :: slots, .text bytes :: tokens =>
      (matchTokens slots tokens).map (.text bytes :: ·)
  | _, _ => none

theorem matchTokens_exactly (constant : List Token) (slots : List Slot)
    (tokens : List Token) :
    matchTokens (constant.map Slot.exactly ++ slots) (constant ++ tokens) =
      matchTokens slots tokens := by
  induction constant with
  | nil => rfl
  | cons token constant inductionHypothesis =>
      simpa [matchTokens] using inductionHypothesis

/-- Parts at the beginning of a text follow their own pattern. -/
theorem matchTokens_append (parts : List Part) (slots : List Slot)
    (tokens : List Token) :
    matchTokens (patternOf parts ++ slots) (tokensOf parts ++ tokens) =
      (matchTokens slots tokens).map (paramsOf parts ++ ·) := by
  induction parts with
  | nil => simp [patternOf, tokensOf, paramsOf]
  | cons part parts inductionHypothesis =>
      rw [patternOf, tokensOf, paramsOf] at inductionHypothesis ⊢
      simp only [List.flatMap_cons, List.append_assoc]
      cases part with
      | text bytes =>
          rw [Part.pattern, Part.tokens, matchTokens_exactly, inductionHypothesis]
          rfl
      | number value =>
          simp [Part.pattern, Part.tokens, Part.params, matchTokens,
            decimal_all, inductionHypothesis, Function.comp_def]
      | raw bytes | escaped bytes =>
          simp [Part.pattern, Part.tokens, Part.params, matchTokens,
            inductionHypothesis, Function.comp_def]

/-- A statement follows its own pattern. -/
theorem matchTokens_tokensOf (parts : List Part) :
    matchTokens (patternOf parts) (tokensOf parts) = some (paramsOf parts) := by
  simpa [matchTokens] using matchTokens_append parts [] []

/-- Some token fits both slots. -/
def Slot.compatible : Slot → Slot → Bool
  | .exactly first, .exactly second => first = second
  | .exactly (.word digits), .number | .number, .exactly (.word digits) =>
      digits.all isDigit
  | .exactly (.text _), .text | .text, .exactly (.text _) => true
  | .number, .number | .text, .text => true
  | _, _ => false

/-- Some statement may follow both patterns. -/
def compatible : List Slot → List Slot → Bool
  | [], [] => true
  | first :: slots, second :: others =>
      first.compatible second && compatible slots others
  | _, _ => false

def Slot.Fits : Slot → Token → Prop
  | .exactly expected, token => token = expected
  | .number, .word digits => digits.all isDigit = true
  | .text, .text _ => True
  | _, _ => False

theorem fits_of_matchTokens {slots : List Slot} {tokens : List Token}
    {params : List Param} (matched : matchTokens slots tokens = some params) :
    List.Forall₂ Slot.Fits slots tokens := by
  induction slots generalizing tokens params with
  | nil =>
      cases tokens with
      | nil => exact .nil
      | cons token tokens => simp [matchTokens] at matched
  | cons slot slots inductionHypothesis =>
      cases tokens with
      | nil => cases slot <;> simp [matchTokens] at matched
      | cons token tokens =>
          unfold matchTokens at matched
          split at matched
          · simp_all
          · rename_i first second
            cases first
            cases second
            split at matched
            · rename_i same
              exact .cons same (inductionHypothesis matched)
            · cases matched
          · rename_i first second
            cases first
            cases second
            split at matched
            · rename_i digits
              obtain ⟨rest, found, -⟩ := Option.map_eq_some_iff.mp matched
              exact .cons digits (inductionHypothesis found)
            · cases matched
          · rename_i first second
            cases first
            cases second
            obtain ⟨rest, found, -⟩ := Option.map_eq_some_iff.mp matched
            exact .cons trivial (inductionHypothesis found)
          · cases matched

theorem Slot.compatible_of_fits {first second : Slot} {token : Token}
    (fitsFirst : first.Fits token) (fitsSecond : second.Fits token) :
    first.compatible second = true := by
  cases first with
  | exactly expected =>
      obtain rfl : token = expected := fitsFirst
      cases second with
      | exactly other =>
          obtain rfl : token = other := fitsSecond
          simp [Slot.compatible]
      | number | text => cases token <;> simp_all [Slot.Fits, Slot.compatible]
  | number | text =>
      cases second with
      | exactly expected =>
          obtain rfl : token = expected := fitsSecond
          cases token <;> simp_all [Slot.Fits, Slot.compatible]
      | number | text => cases token <;> simp_all [Slot.Fits, Slot.compatible]

theorem compatible_of_fits {first second : List Slot} {tokens : List Token}
    (fitsFirst : List.Forall₂ Slot.Fits first tokens)
    (fitsSecond : List.Forall₂ Slot.Fits second tokens) :
    compatible first second = true := by
  induction fitsFirst generalizing second with
  | nil =>
      cases fitsSecond
      rfl
  | cons fits _ inductionHypothesis =>
      cases fitsSecond with
      | cons otherFits rest =>
          simp [compatible, Slot.compatible_of_fits fits otherFits,
            inductionHypothesis rest]

/-- The statement of a table that a text follows, with its parameters. -/
def recognize {κ : Type} (patterns : List (κ × List Slot))
    (tokens : List Token) : Option (κ × List Param) :=
  patterns.findSome? fun entry =>
    (matchTokens entry.2 tokens).map fun params => (entry.1, params)

/-- A statement of the table is recognised when the patterns exclude each
other. -/
theorem recognize_tokensOf {κ : Type} {patterns : List (κ × List Slot)}
    (separate : patterns.Pairwise fun first second =>
      compatible first.2 second.2 = false)
    {key : κ} {parts : List Part} (listed : (key, patternOf parts) ∈ patterns) :
    recognize patterns (tokensOf parts) = some (key, paramsOf parts) := by
  induction patterns with
  | nil => cases listed
  | cons entry patterns inductionHypothesis =>
      rw [List.pairwise_cons] at separate
      rw [recognize, List.findSome?_cons]
      rcases List.mem_cons.mp listed with first | later
      · rw [← first, matchTokens_tokensOf]
        rfl
      · have missed : matchTokens entry.2 (tokensOf parts) = none := by
          cases matched : matchTokens entry.2 (tokensOf parts) with
          | none => rfl
          | some params =>
              have excluded := separate.1 _ later
              rw [compatible_of_fits (fits_of_matchTokens matched)
                (fits_of_matchTokens (matchTokens_tokensOf parts))] at excluded
              cases excluded
        rw [missed]
        exact inductionHypothesis separate.2 later

/-- The parts differ in their parameters only. -/
def Part.SameShape : Part → Part → Prop
  | text first, text second => first = second
  | number _, number _ | raw _, raw _ | escaped _, escaped _ => True
  | _, _ => False

section SameShape

variable {parts sample : List Part}
  (shape : List.Forall₂ Part.SameShape parts sample)

include shape

theorem patternOf_sameShape : patternOf parts = patternOf sample := by
  induction shape with
  | nil => rfl
  | @cons part other parts others same _ inductionHypothesis =>
      rw [patternOf, patternOf, List.flatMap_cons, List.flatMap_cons]
      rw [patternOf, patternOf] at inductionHypothesis
      rw [inductionHypothesis]
      cases part <;> cases other <;> simp_all [Part.SameShape, Part.pattern]

theorem wellJoined_sameShape (pending : Bool) :
    wellJoined pending parts = wellJoined pending sample := by
  induction shape generalizing pending with
  | nil => rfl
  | @cons part other parts others same _ inductionHypothesis =>
      have rest : wellJoined true parts = wellJoined true others :=
        inductionHypothesis true
      cases part with
      | text bytes =>
          cases other with
          | text others =>
              obtain rfl : bytes = others := same
              rw [wellJoined, wellJoined]
              cases endsInWord bytes with
              | none => rfl
              | some continued => simp only [inductionHypothesis]
          | _ => exact same.elim
      | number value | raw bytes | escaped bytes =>
          cases other <;> simp_all [Part.SameShape, wellJoined]

theorem pendingAfter_sameShape (pending : Bool) :
    pendingAfter pending parts = pendingAfter pending sample := by
  induction shape generalizing pending with
  | nil => rfl
  | @cons part other parts others same _ inductionHypothesis =>
      cases part <;> cases other <;>
        simp_all [Part.SameShape, pendingAfter, -Bool.forall_bool]

end SameShape

/-- Opening minus closing parentheses of a pattern. -/
def patternDepth (slots : List Slot) : Int :=
  slots.count (.exactly (.symbol 40)) - slots.count (.exactly (.symbol 41))

theorem depth_tokensOf (parts : List Part) :
    depth (tokensOf parts) = patternDepth (patternOf parts) := by
  have counted : ∀ byte, (tokensOf parts).count (.symbol byte) =
      (patternOf parts).count (.exactly (.symbol byte)) := by
    intro byte
    rw [tokensOf, patternOf, List.count_flatMap, List.count_flatMap]
    congr 1
    refine List.map_congr_left fun part _ => ?_
    cases part with
    | text bytes =>
        simp only [Function.comp, Part.tokens, Part.pattern]
        rw [List.count_map_of_injective _ _ (fun _ _ same => by cases same; rfl)]
    | number value | raw bytes | escaped bytes =>
        simp [Part.tokens, Part.pattern]
  rw [depth, patternDepth, counted, counted]

/-- A statement with clean parameters is read as its sample is. -/
theorem readTokens_render {parts sample : List Part}
    (shape : List.Forall₂ Part.SameShape parts sample)
    (clean : ∀ part ∈ parts, part.Clean)
    (joined : wellJoined false sample = true)
    (balanced : patternDepth (patternOf sample) = 0) :
    readTokens (render parts) = some (tokensOf parts) := by
  rw [← wellJoined_sameShape shape] at joined
  rw [← patternOf_sameShape shape, ← depth_tokensOf] at balanced
  rw [readTokens, lex_render clean joined]
  exact if_pos balanced

theorem LexState.finish_frame (mode : LexMode) (tokens before : List Token) :
    LexState.finish ⟨mode, tokens ++ before⟩ =
      (LexState.finish ⟨mode, tokens⟩).map (before.reverse ++ ·) := by
  cases mode <;> simp [LexState.finish, LexState.settle]

/-- A text that goes on with a literal. -/
theorem lex_literal {parts : List Part} (clean : ∀ part ∈ parts, part.Clean)
    (joined : wellJoined false parts = true)
    (closed : pendingAfter false parts = false) (bytes : Bytes) :
    lex (render parts ++ 39 :: bytes) =
      (lexFrom ⟨.quoted 39 [], []⟩ bytes).finish.map (tokensOf parts ++ ·) := by
  obtain ⟨ready, settled⟩ := lexFrom_render clean joined
    (show LexState.Ready ⟨.between, []⟩ false from rfl)
  rw [closed] at ready
  rw [lex, lexFrom_append]
  generalize lexFrom ⟨.between, []⟩ (render parts) = state at ready settled ⊢
  obtain ⟨mode, tokens⟩ := state
  obtain rfl : mode = .between := ready
  obtain rfl : tokens = (tokensOf parts).reverse := by
    simpa [LexState.settle] using settled
  change (lexFrom ⟨.quoted 39 [], (tokensOf parts).reverse⟩ bytes).finish = _
  rw [lexFrom_frame, LexState.finish_frame, List.reverse_reverse]

/-- A text that ends inside a literal is an error. -/
theorem readTokens_cutLiteral {parts : List Part}
    (clean : ∀ part ∈ parts, part.Clean)
    (joined : wellJoined false parts = true)
    (closed : pendingAfter false parts = false) {bytes : Bytes}
    (verbatim : Verbatim bytes) (count : Nat) :
    readTokens (render parts ++ 39 :: bytes.take count) = none := by
  rw [readTokens, lex_literal clean joined closed,
    verbatim.take_open count [] []]
  rfl

theorem depth_cons (token : Token) (tokens : List Token)
    (noClosing : token ≠ .symbol 41) :
    depth tokens ≤ depth (token :: tokens) := by
  simp only [depth, List.count_cons, beq_iff_eq, if_neg noClosing]
  split <;> omega

theorem depth_lexBetween {byte : UInt8} (noClosing : byte ≠ 41)
    (tokens : List Token) : depth tokens ≤ depth (lexBetween tokens byte).tokens := by
  unfold lexBetween
  split_ifs
  all_goals first
    | exact Int.le_refl _
    | exact depth_cons _ _ (by simpa using noClosing)

/-- Only a closing parenthesis lowers the depth. -/
theorem depth_lexStep {byte : UInt8} (noClosing : byte ≠ 41) (state : LexState) :
    depth state.tokens ≤ depth (lexStep state byte).tokens := by
  have pushed : ∀ token tokens, token ≠ Token.symbol 41 →
      depth tokens ≤ depth (lexBetween (token :: tokens) byte).tokens :=
    fun token tokens apart =>
      Int.le_trans (depth_cons token tokens apart) (depth_lexBetween noClosing _)
  obtain ⟨mode, tokens⟩ := state
  cases mode with
  | between => exact depth_lexBetween noClosing tokens
  | word bytes =>
      simp only [lexStep]
      split
      · exact Int.le_refl _
      · exact pushed _ _ (by simp)
  | closing quote bytes =>
      simp only [lexStep]
      split
      · exact Int.le_refl _
      · refine pushed _ _ ?_
        unfold literal
        split <;> simp
  | dash | slash =>
      simp only [lexStep]
      split
      · exact Int.le_refl _
      · exact pushed _ _ (by decide)
  | dashes =>
      simp only [lexStep]
      split_ifs
      · exact depth_cons _ _ (by decide)
      · exact Int.le_refl _
      · exact Int.le_refl _
      · exact Int.le_trans (depth_cons _ _ (by decide)) (pushed _ _ (by decide))
  | commentOpen =>
      simp only [lexStep]
      split_ifs
      · exact depth_cons _ _ (by decide)
      all_goals exact Int.le_refl _
  | escaped quote bytes => exact Int.le_refl _
  | quoted quote bytes | lineComment | blockComment | blockStar =>
      simp only [lexStep]
      split_ifs <;> exact Int.le_refl _

theorem depth_lexFrom {bytes : Bytes} (noClosing : ∀ byte ∈ bytes, byte ≠ 41)
    (state : LexState) :
    depth state.tokens ≤ depth (lexFrom state bytes).tokens := by
  induction bytes generalizing state with
  | nil => exact Int.le_refl _
  | cons byte bytes inductionHypothesis =>
      rw [lexFrom_cons]
      exact Int.le_trans (depth_lexStep (noClosing byte (by simp)) state)
        (inductionHypothesis (fun other member =>
          noClosing other (List.mem_cons_of_mem byte member)) _)

theorem depth_settle (state : LexState) :
    depth state.settle.tokens = depth state.tokens := by
  obtain ⟨mode, tokens⟩ := state
  cases mode with
  | closing quote bytes =>
      simp only [LexState.settle, literal]
      split <;> simp [depth]
  | word bytes => simp [LexState.settle, depth]
  | _ => rfl

theorem depth_finish {state : LexState} {tokens : List Token}
    (finished : state.finish = some tokens) :
    depth tokens = depth state.tokens := by
  rw [← depth_settle]
  rw [LexState.finish] at finished
  split at finished
  all_goals cases finished
  all_goals
    rename_i same
    rw [same]
    simp [depth]

/-- A text that ends before its parentheses are closed is an error. -/
theorem readTokens_unclosed {parts : List Part}
    (clean : ∀ part ∈ parts, part.Clean)
    (joined : wellJoined false parts = true)
    (inside : 1 ≤ patternDepth (patternOf parts)) {bytes : Bytes}
    (noClosing : ∀ byte ∈ bytes, byte ≠ 41) :
    readTokens (render parts ++ bytes) = none := by
  have settled := (lexFrom_render clean joined
    (show LexState.Ready ⟨.between, []⟩ false from rfl)).2
  rw [readTokens]
  cases finished : lex (render parts ++ bytes) with
  | none => rfl
  | some tokens =>
      refine if_neg ?_
      rw [lex, lexFrom_append] at finished
      have grown := depth_lexFrom noClosing (lexFrom ⟨.between, []⟩ (render parts))
      rw [← depth_finish finished, ← depth_settle, settled] at grown
      have same : depth ((tokensOf parts).reverse ++
          (LexState.settle ⟨.between, []⟩).tokens) = depth (tokensOf parts) := by
        simp [depth, LexState.settle]
      rw [same, depth_tokensOf] at grown
      omega

theorem wellJoined_append (pending : Bool) (first second : List Part) :
    wellJoined pending (first ++ second) =
      (wellJoined pending first &&
        wellJoined (pendingAfter pending first) second) := by
  induction first generalizing pending with
  | nil => rfl
  | cons part first inductionHypothesis =>
      cases part with
      | text bytes =>
          simp only [List.cons_append, wellJoined, pendingAfter]
          cases ends : endsInWord bytes with
          | none => simp
          | some continued =>
              simp only [inductionHypothesis, Option.some.injEq, Bool.decide_eq_true,
                Bool.and_assoc]
      | number value | raw bytes | escaped bytes =>
          simp only [List.cons_append, wellJoined, pendingAfter,
            inductionHypothesis, Bool.and_assoc]

/-- Constant text or a number without a closing parenthesis, or a raw text. -/
def Part.Open : Part → Prop
  | text bytes => ∀ byte ∈ bytes, byte ≠ 41
  | number _ | raw _ => True
  | escaped _ => False

theorem Part.Open.noClosing {part : Part} (unclosed : part.Open)
    (parameter : ∀ bytes, part ≠ .raw bytes) :
    ∀ byte ∈ part.render, byte ≠ 41 := by
  cases part with
  | text bytes => exact unclosed
  | number value =>
      intro byte member closing
      have digits := List.all_eq_true.mp (decimal_all value) byte member
      rw [closing] at digits
      cases digits
  | raw bytes => exact (parameter bytes rfl).elim
  | escaped bytes => exact unclosed.elim

/-- A part without a closing parenthesis does not lower the depth. -/
theorem Part.Open.depth_nonneg {part : Part} (unclosed : part.Open) :
    0 ≤ depth part.tokens := by
  cases part with
  | text bytes =>
      have grown := depth_lexFrom unclosed ⟨.between, []⟩
      rw [← depth_settle (lexFrom _ _)] at grown
      simpa [Part.tokens, depth] using grown
  | number value | raw bytes => simp [Part.tokens, depth]
  | escaped bytes => exact unclosed.elim

theorem depth_append (first second : List Token) :
    depth (first ++ second) = depth first + depth second := by
  simp only [depth, List.count_append]
  omega

theorem render_append (first second : List Part) :
    render (first ++ second) = render first ++ render second :=
  List.flatMap_append

theorem tokensOf_append (first second : List Part) :
    tokensOf (first ++ second) = tokensOf first ++ tokensOf second :=
  List.flatMap_append

/-- A statement that opens a parenthesis in `front` and does not close it in
`rest` is an error wherever it is cut in `rest`. -/
theorem readTokens_cut {front rest : List Part}
    (clean : ∀ part ∈ front ++ rest, part.Clean)
    (joined : wellJoined false (front ++ rest) = true)
    (inside : 1 ≤ depth (tokensOf front)) (opens : ∀ part ∈ rest, part.Open)
    {count : Nat} (begun : (render front).length ≤ count)
    (cut : count ≤ (render (front ++ rest)).length) :
    readTokens ((render (front ++ rest)).take count) = none := by
  induction rest generalizing front with
  | nil =>
      rw [List.append_nil] at clean joined cut ⊢
      rw [List.take_of_length_le (by omega)]
      rw [depth_tokensOf] at inside
      have nothing : ∀ byte ∈ ([] : Bytes), byte ≠ 41 := by simp
      simpa using readTokens_unclosed clean joined inside nothing
  | cons part rest inductionHypothesis =>
      have unclosed := opens part (by simp)
      have regroup : front ++ part :: rest = (front ++ [part]) ++ rest := by simp
      by_cases later : (render (front ++ [part])).length ≤ count
      · rw [regroup] at clean joined cut ⊢
        refine inductionHypothesis clean joined ?_
          (fun other member => opens other (List.mem_cons_of_mem part member))
          later cut
        have nonneg := unclosed.depth_nonneg
        rw [tokensOf_append, depth_append]
        simp only [tokensOf, List.flatMap_cons, List.flatMap_nil, List.append_nil]
          at inside ⊢
        omega
      · have frontClean : ∀ other ∈ front, other.Clean :=
          fun other member => clean other (List.mem_append_left _ member)
        rw [wellJoined_append, Bool.and_eq_true] at joined
        obtain ⟨frontJoined, restJoined⟩ := joined
        rw [render_append, List.length_append] at later
        have single : render [part] = part.render := by simp [render]
        rw [single] at later
        have text : (render (front ++ part :: rest)).take count =
            render front ++ part.render.take (count - (render front).length) := by
          rw [regroup, render_append, render_append, single, List.append_assoc,
            List.take_append, List.take_of_length_le begun,
            List.take_append_of_le_length (by omega)]
        rw [depth_tokensOf] at inside
        rw [text]
        by_cases literal : ∃ bytes, part = .raw bytes
        · obtain ⟨bytes, rfl⟩ := literal
          simp only [wellJoined, Bool.and_eq_true, Bool.not_eq_true'] at restJoined
          rw [Part.render] at later ⊢
          simp only [List.length_cons, List.length_append, List.length_nil] at later
          cases inner : count - (render front).length with
          | zero =>
              exact readTokens_unclosed frontClean frontJoined inside (by simp)
          | succ inner =>
              rw [List.take_succ_cons, List.take_append_of_le_length (by omega)]
              have verbatim : Verbatim bytes := clean (.raw bytes) (by simp)
              exact readTokens_cutLiteral frontClean frontJoined restJoined.1
                verbatim _
        · apply readTokens_unclosed frontClean frontJoined inside
          intro byte member
          exact unclosed.noClosing (fun bytes same => literal ⟨bytes, same⟩) byte
            (List.mem_of_mem_take member)

theorem finish_begins {state : LexState} {tokens : List Token}
    (finished : state.finish = some tokens) : state.tokens.reverse <+: tokens := by
  obtain ⟨mode, read⟩ := state
  cases mode <;> simp_all [LexState.finish, LexState.settle] <;>
    subst finished <;> simp

/-- The tokens that have been read stay. -/
theorem finish_lexFrom_begins {mode : LexMode} {first tokens : List Token}
    {bytes : Bytes}
    (finished : (lexFrom ⟨mode, first⟩ bytes).finish = some tokens) :
    first.reverse <+: tokens := by
  rw [lexFrom_frame] at finished
  have begins := finish_begins finished
  simp only [List.reverse_append] at begins
  exact (List.prefix_append _ _).trans begins

theorem lex_of_readTokens {text : Bytes} {tokens : List Token}
    (read : readTokens text = some tokens) : lex text = some tokens := by
  rw [readTokens] at read
  split at read
  · cases read
  · rename_i finished
    split at read
    · rw [finished, read]
    · cases read

/-- The tokens of a text begin with those of its beginning. -/
theorem readTokens_begins {constant rest : Bytes} {first tokens : List Token}
    (begun : lexFrom ⟨.between, []⟩ constant = ⟨.between, first.reverse⟩)
    (read : readTokens (constant ++ rest) = some tokens) :
    first <+: tokens := by
  have lexed := lex_of_readTokens read
  rw [lex, lexFrom_append, begun] at lexed
  simpa using finish_lexFrom_begins lexed

/-- The token of a literal is read before what follows it. -/
theorem literal_ended {bytes pending : Bytes} {next : UInt8}
    (ends : next ≠ 39) {tokens : List Token}
    (finished : (lexFrom ⟨.closing 39 pending, []⟩ (next :: bytes)).finish =
      some tokens) : [.text pending.reverse] <+: tokens := by
  have framed := lexBetween_frame [] [.text pending.reverse] next
  have stepped : lexStep ⟨.closing 39 pending, []⟩ next =
      lexBetween [.text pending.reverse] next := if_neg ends
  rw [lexFrom_cons, stepped, ← List.nil_append [_], framed] at finished
  have begins := finish_lexFrom_begins finished
  rw [List.reverse_append] at begins
  exact (List.prefix_append _ _).trans begins

/-- A literal means a text that is shorter than the bytes up to its end, unless
it is that text and nothing follows. -/
theorem literal_decoded {bytes pending decoded : Bytes} {tokens : List Token}
    (finished : (lexFrom ⟨.quoted 39 pending, []⟩ bytes).finish =
      some (.text decoded :: tokens)) :
    decoded.length + 1 ≤ pending.length + bytes.length ∧
      (decoded.length + 1 = pending.length + bytes.length →
        ∃ body, bytes = body ++ [39] ∧ decoded = pending.reverse ++ body ∧
          Verbatim body) := by
  induction size : bytes.length using Nat.strong_induction_on
    generalizing bytes pending with
  | _ size inductionHypothesis =>
  subst size
  match bytes with
  | [] => cases finished
  | byte :: rest =>
      by_cases quote : byte = 39
      · subst quote
        match rest with
        | [] =>
            cases finished
            exact ⟨by simp, fun _ => ⟨[], rfl, by simp, .nil⟩⟩
        | next :: rest =>
            by_cases doubled : next = 39
            · subst doubled
              have shorter : rest.length < (39 :: 39 :: rest).length := by
                simp only [List.length_cons]
                omega
              have later :=
                (@inductionHypothesis _ shorter rest (39 :: pending) finished rfl).1
              simp only [List.length_cons] at later ⊢
              exact ⟨by omega, by omega⟩
            · have emitted := literal_ended doubled finished
              obtain rfl : pending.reverse = decoded := by
                simpa [List.prefix_cons_iff] using emitted
              simp only [List.length_cons, List.length_reverse]
              exact ⟨by omega, by omega⟩
      · by_cases backslash : byte = 92
        · subst backslash
          match rest with
          | [] => cases finished
          | next :: rest =>
              have shorter : rest.length < (92 :: next :: rest).length := by
                simp only [List.length_cons]
                omega
              obtain ⟨bound, exactly_⟩ := @inductionHypothesis _ shorter rest
                (unescape next ++ pending) finished rfl
              simp only [List.length_cons, List.length_append] at bound exactly_ ⊢
              by_cases kept : next = 37 ∨ next = 95
              · rw [unescape_wildcard kept] at bound exactly_
                simp only [List.length_cons, List.length_nil] at bound exactly_
                refine ⟨by omega, fun same => ?_⟩
                obtain ⟨body, rfl, rfl, verbatim⟩ := exactly_ (by omega)
                exact ⟨92 :: next :: body, rfl, by simp, .wildcard kept verbatim⟩
              · have one : (unescape next).length = 1 := by
                  unfold unescape
                  split_ifs <;> simp_all
                exact ⟨by omega, by omega⟩
        · rw [lexFrom_cons, lexStep_plain quote backslash] at finished
          obtain ⟨bound, exactly_⟩ := @inductionHypothesis rest.length (by simp)
            rest (byte :: pending) finished rfl
          simp only [List.length_cons] at bound exactly_ ⊢
          refine ⟨by omega, fun same => ?_⟩
          obtain ⟨body, rfl, rfl, verbatim⟩ := exactly_ (by omega)
          exact ⟨byte :: body, rfl, by simp, .plain quote backslash verbatim⟩

/-- A blank at the end of a statement makes no difference. -/
theorem readTokens_blank {parts : List Part} (clean : ∀ part ∈ parts, part.Clean)
    (joined : wellJoined false parts = true) :
    readTokens (render parts ++ [32]) = readTokens (render parts) := by
  have ready := (lexFrom_render clean joined
    (show LexState.Ready ⟨.between, []⟩ false from rfl)).1
  have same : lex (render parts ++ [32]) = lex (render parts) := by
    rw [lex, lex, lexFrom_append]
    generalize lexFrom ⟨.between, []⟩ (render parts) = state at ready ⊢
    rw [LexState.lexFrom_settle ready (by cases pendingAfter false parts <;> rfl),
      LexState.ready_settle ready]
    rw [LexState.finish, LexState.finish, LexState.ready_settle ready]
    rfl
  rw [readTokens, readTokens, same]

theorem matchTokens_of_recognize {κ : Type} {patterns : List (κ × List Slot)}
    {tokens : List Token} {key : κ} {params : List Param}
    (recognized : recognize patterns tokens = some (key, params)) :
    ∃ slots, (key, slots) ∈ patterns ∧ matchTokens slots tokens = some params := by
  obtain ⟨entry, listed, found⟩ := List.exists_of_findSome?_eq_some recognized
  obtain ⟨matched, fits, same⟩ := Option.map_eq_some_iff.mp found
  cases same
  exact ⟨entry.2, listed, fits⟩

/-- A pattern that a text follows begins as the text does. -/
theorem compatible_of_matchTokens {first tokens : List Token}
    (begins : first <+: tokens) {slots : List Slot} {params : List Param}
    (matched : matchTokens slots tokens = some params) :
    compatible (slots.take first.length) (first.map Slot.exactly) = true := by
  have front := List.forall₂_take first.length (fits_of_matchTokens matched)
  rw [← List.prefix_iff_eq_take.mp begins] at front
  apply compatible_of_fits front
  rw [List.forall₂_map_left_iff]
  exact List.forall₂_same.mpr fun token _ => rfl

end CloudDrive.Sql
