import CloudDrive.StatementRuns

/-!
# What a lookup means

The path of a lookup is spliced into its text as it is.  The text may be
unreadable, it may be a statement of another form, or it may be the lookup of a
path; that path is the one that was spliced in only if its literal means the
path itself.
-/

namespace CloudDrive

open Sql (Part)

inductive Lookup where
  | unread
  | other (tokens : List Sql.Token)
  | path (decoded : Bytes)
deriving DecidableEq

namespace Lookup

def reply (dialect : Dialect) (userId : UInt64) (database : Database) :
    Lookup → Reply
  | unread => .failed false database.counters
  | other tokens => dialect.other tokens database
  | path decoded =>
      dialect.execute database .selectNode [.number userId.toNat, .text decoded]

/-- The text of a lookup up to its path. -/
def front (userId : UInt64) : List Part := (selectNodeText userId []).dropLast

theorem render_selectNodeText (userId : UInt64) (virtualPath : Bytes) :
    Sql.render (selectNodeText userId virtualPath) =
      Sql.render (front userId) ++ 39 :: (virtualPath ++ [39]) := by
  simp [Sql.render, selectNodeText, front, Part.render]

theorem length_front (userId : UInt64) : (Sql.render (front userId)).length ≤ 100 := by
  have shape : List.Forall₂ Part.SameShape (front userId) (front 0) := by
    simp [front, selectNodeText, Part.SameShape]
  refine Nat.le_trans (length_render_sample shape) ?_
  simp only [front, selectNodeText, List.dropLast_cons_cons,
    List.dropLast_singleton, List.map_cons, List.map_nil, spliceLength,
    List.sum_cons, List.sum_nil]
  decide +kernel

/-- Only lookups begin as a lookup does. -/
theorem selectNode_of_begins :
    ∀ entry ∈ statementPatterns,
      Sql.compatible (entry.2.take 9)
          ((Sql.tokensOf ((front 0).take 1)).map Sql.Slot.exactly) = true →
        entry = (.selectNode, Sql.patternOf (front 0) ++ [.text]) := by
  decide +kernel

theorem recognize_front {userId : UInt64} {rest : List Sql.Token}
    {statement : Statement} {params : List Sql.Param}
    (recognized : Sql.recognize statementPatterns
      (Sql.tokensOf (front userId) ++ rest) = some (statement, params)) :
    ∃ decoded, rest = [.text decoded] ∧ statement = .selectNode ∧
      params = [.number userId.toNat, .text decoded] := by
  obtain ⟨slots, listed, matched⟩ := Sql.matchTokens_of_recognize recognized
  have begins : Sql.tokensOf ((front 0).take 1) <+:
      Sql.tokensOf (front userId) ++ rest := by
    refine (List.prefix_append _ _).trans (List.prefix_append _ _)
  have isLookup := selectNode_of_begins _ listed
    (Sql.compatible_of_matchTokens begins matched)
  have pattern : Sql.patternOf (front 0) = Sql.patternOf (front userId) := by
    apply Sql.patternOf_sameShape
    simp [front, selectNodeText, Part.SameShape]
  cases isLookup
  rw [pattern, Sql.matchTokens_append, Option.map_eq_some_iff] at matched
  obtain ⟨literal, found, rfl⟩ := matched
  rcases rest with _ | ⟨_ | decoded | _ | _, _ | _⟩ <;> try cases found
  exact ⟨decoded, rfl, rfl, by simp [front, selectNodeText, Sql.paramsOf,
    Part.params]⟩

/-- The meaning of a lookup does not depend on the server or on what is
stored. -/
theorem exists_lookup (userId : UInt64) (virtualPath : Bytes) :
    ∃ lookup : Lookup,
      (∀ dialect database,
        Dialect.run dialect (statementText 1024 (selectNodeText userId virtualPath))
          database = lookup.reply dialect userId database) ∧
      ∀ decoded, lookup = .path decoded →
        decoded.length ≤ virtualPath.length ∧
          (decoded = virtualPath → Sql.Verbatim virtualPath) := by
  obtain ⟨count, text⟩ : ∃ count,
      statementText 1024 (selectNodeText userId virtualPath) =
        Sql.render (front userId) ++ 39 :: (virtualPath ++ [39]).take count := by
    have short := length_front userId
    refine ⟨1022 - (Sql.render (front userId)).length, ?_⟩
    rw [statementText, render_selectNodeText, snprintf, List.take_append,
      List.take_of_length_le (by omega),
      show 1024 - 1 - (Sql.render (front userId)).length =
        1022 - (Sql.render (front userId)).length + 1 by omega,
      List.take_succ_cons]
  cases read : Sql.readTokens
      (statementText 1024 (selectNodeText userId virtualPath)) with
  | none =>
      refine ⟨.unread, fun dialect => dialect.run_unread read, fun decoded isPath => ?_⟩
      cases isPath
  | some tokens =>
      have joined : Sql.wellJoined false (front userId) = true := by
        rw [@Sql.wellJoined_sameShape _ (front 0)
          (by simp [front, selectNodeText, Part.SameShape])]
        decide +kernel
      have closed : Sql.pendingAfter false (front userId) = false := by
        rw [@Sql.pendingAfter_sameShape _ (front 0)
          (by simp [front, selectNodeText, Part.SameShape])]
        decide +kernel
      have lexed := Sql.lex_of_readTokens read
      rw [text, Sql.lex_literal (by simp [front, selectNodeText, Part.Clean])
        joined closed, Option.map_eq_some_iff] at lexed
      obtain ⟨rest, finished, rfl⟩ := lexed
      cases recognized : Sql.recognize statementPatterns
          (Sql.tokensOf (front userId) ++ rest) with
      | none =>
          refine ⟨.other (Sql.tokensOf (front userId) ++ rest),
            fun dialect database => ?_, fun decoded isPath => by cases isPath⟩
          rw [Dialect.run, read]
          simp only [recognized]
          rfl
      | some meaning =>
          obtain ⟨statement, params⟩ := meaning
          obtain ⟨decoded, rfl, rfl, rfl⟩ := recognize_front recognized
          refine ⟨.path decoded, fun dialect database => ?_, fun _ same => ?_⟩
          · rw [Dialect.run, read]
            simp only [recognized]
            rfl
          · cases same
            obtain ⟨bound, whole⟩ := Sql.literal_decoded finished
            have upper := List.length_take_le' count (virtualPath ++ [39])
            simp only [List.length_append, List.length_cons, List.length_nil]
              at bound whole upper
            refine ⟨by omega, ?_⟩
            rintro rfl
            obtain ⟨body, -, rfl, verbatim⟩ := whole (by omega)
            exact verbatim

end Lookup

end CloudDrive
