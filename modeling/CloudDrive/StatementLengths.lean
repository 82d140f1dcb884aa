import CloudDrive.StatementRuns
import CloudDrive.CanonicalPaths

/-!
# Statements that fit their buffers

`dao_path_get_node_id`, `dao_path_insert_dir` and `dao_get_file_meta` format
their statements into buffers of 1024 bytes and do not look at what `snprintf`
returns.  The queries fit for every path that the table can hold; the insertion
contains the last component a second time.
-/

namespace CloudDrive

open Sql (Part)

/-- The bytes behind the last slash of a path. -/
def lastComponent (path : Bytes) : Bytes :=
  ((splitAtLastSlash path).map Prod.snd).getD []

/-- The statement arrives as it was written, and the server runs it. -/
def ArrivesWhole (statement : Statement) (parts : List Part) (sql : Bytes) : Prop :=
  sql = Sql.render parts ∧
    ∀ (dialect : Dialect) (database : Database),
      dialect.run sql database =
        dialect.execute database statement (Sql.paramsOf parts)

/-- Every statement that a function sends has the property. -/
def SendsOnly {α : Type} (property : Bytes → Prop) (program : DbProgram α) : Prop :=
  program.Obeys (fun (_ : Unit) op => ∀ sql, op = .query sql → property sql)
    (fun _ _ _ => ()) () fun _ _ => True

section Programs

variable {property : Bytes → Prop} {sql : Bytes}

theorem sendsOnly_databasePoolExecute :
    SendsOnly property (databasePoolExecute sql) ↔ property sql := by
  constructor
  · intro sends
    exact (sends.2 true).1 sql rfl
  · intro sent
    refine ⟨nofun, fun acquired => ?_⟩
    cases acquired with
    | false => trivial
    | true =>
        refine ⟨fun text isText => DbOp.query.inj isText ▸ sent, fun succeeds => ?_⟩
        cases succeeds with
        | false =>
            refine ⟨nofun, fun _ => ⟨nofun, fun duplicate => ?_⟩⟩
            cases duplicate <;> trivial
        | true => exact ⟨nofun, fun _ => trivial⟩

theorem sendsOnly_databasePoolQuery {α : Type}
    {rest : Option (List (List Cell)) → DbProgram α}
    (ends : ∀ stored, ∃ value, rest stored = .done value) :
    SendsOnly property (databasePoolQuery sql >>= rest) ↔ property sql := by
  have silent : ∀ stored, SendsOnly property (rest stored) := by
    intro stored
    obtain ⟨value, ended⟩ := ends stored
    rw [ended]
    trivial
  constructor
  · intro sends
    exact (sends.2 true).1 sql rfl
  · intro sent
    refine ⟨nofun, fun acquired => ?_⟩
    cases acquired with
    | false => exact silent none
    | true =>
        refine ⟨fun text isText => DbOp.query.inj isText ▸ sent, fun succeeds => ?_⟩
        cases succeeds with
        | false => exact ⟨nofun, fun _ => silent none⟩
        | true => exact ⟨nofun, fun stored => ⟨nofun, fun _ => silent stored⟩⟩

theorem sendsOnly_daoPathGetNodeId {userId : UInt64} {virtualPath : Bytes} :
    SendsOnly property (daoPathGetNodeId userId virtualPath) ↔
      property (statementText 1024 (selectNodeText userId virtualPath)) := by
  refine sendsOnly_databasePoolQuery fun stored => ?_
  rcases stored with _ | _ | ⟨row, rows⟩
  · exact ⟨_, rfl⟩
  · exact ⟨_, rfl⟩
  · dsimp only
    split_ifs <;> exact ⟨_, rfl⟩

theorem sendsOnly_daoGetFileMeta {stale : Bytes} {userId : UInt64}
    {targetPath : Bytes} :
    SendsOnly property (daoGetFileMeta stale userId targetPath) ↔
      property (statementText 1024 (selectMetaLimitText userId targetPath)) := by
  refine sendsOnly_databasePoolQuery fun stored => ?_
  rcases stored with _ | _ | ⟨row, rows⟩
  · exact ⟨_, rfl⟩
  · exact ⟨_, rfl⟩
  · dsimp only
    split
    · split_ifs <;> exact ⟨_, rfl⟩
    · exact ⟨_, rfl⟩

end Programs

theorem statementText_eq_render_iff {size : Nat} {parts : List Part} (room : 0 < size) :
    statementText size parts = Sql.render parts ↔ (Sql.render parts).length < size := by
  rw [statementText, snprintf, List.take_eq_self_iff]
  omega

section Texts

/-- The bytes of a part that the format string does not fix. -/
def variableLength : Part → Nat
  | .text _ => 0
  | .number value => (decimal value).length
  | .raw bytes => bytes.length
  | .escaped bytes => (Sql.escape bytes).length

/-- Texts of one shape have the same constants. -/
theorem length_render_sameShape {parts sample : List Part}
    (shape : List.Forall₂ Part.SameShape parts sample) {constant : Nat}
    (sampled : (Sql.render sample).length =
      constant + (sample.map variableLength).sum) :
    (Sql.render parts).length = constant + (parts.map variableLength).sum := by
  have lengths : (Sql.render parts).length + (sample.map variableLength).sum =
      (Sql.render sample).length + (parts.map variableLength).sum := by
    clear sampled
    induction shape with
    | nil => rfl
    | @cons part other parts others same _ inductionHypothesis =>
        have first : part.render.length + variableLength other =
            other.render.length + variableLength part := by
          cases part <;> cases other <;> simp_all [Part.SameShape, Part.render,
            variableLength] <;> omega
        rw [Sql.render, Sql.render] at inductionHypothesis ⊢
        simp only [List.flatMap_cons, List.length_append, List.map_cons,
          List.sum_cons]
        omega
  omega

variable (userId parentId : UInt64) (path name : Bytes)

theorem length_selectNodeText :
    (Sql.render (selectNodeText userId path)).length =
      57 + (decimal userId).length + path.length := by
  have shape : List.Forall₂ Part.SameShape (selectNodeText userId path)
      (selectNodeText 0 []) := by
    simp [selectNodeText, Part.SameShape]
  rw [@length_render_sameShape _ _ shape 57 (by decide +kernel)]
  simp [selectNodeText, variableLength, Nat.add_assoc]

theorem length_insertDirectoryText :
    (Sql.render (insertDirectoryText userId path parentId name)).length =
      97 + (decimal userId).length + (decimal parentId).length + path.length +
        name.length := by
  have shape : List.Forall₂ Part.SameShape
      (insertDirectoryText userId path parentId name)
      (insertDirectoryText 0 [] 0 []) := by
    simp [insertDirectoryText, insertPathsText, Part.SameShape]
  rw [@length_render_sameShape _ _ shape 97 (by decide +kernel)]
  simp [insertDirectoryText, insertPathsText, variableLength]
  omega

theorem length_selectMetaLimitText :
    (Sql.render (selectMetaLimitText userId path)).length =
      176 + (decimal userId).length + path.length := by
  have shape : List.Forall₂ Part.SameShape (selectMetaLimitText userId path)
      (selectMetaLimitText 0 []) := by
    simp [selectMetaLimitText, selectMetaText, Part.SameShape]
  rw [@length_render_sameShape _ _ shape 176 (by decide +kernel)]
  simp [selectMetaLimitText, selectMetaText, variableLength, Nat.add_assoc]

end Texts

/-- A statement of the table arrives whole if and only if it fits its buffer. -/
theorem arrivesWhole_iff {statement : Statement} {parts sample : List Part}
    (listed : (statement, sample) ∈ statementSamples)
    (shape : List.Forall₂ Part.SameShape parts sample)
    (clean : ∀ part ∈ parts, part.Clean) :
    ArrivesWhole statement parts (statementText 1024 parts) ↔
      (Sql.render parts).length < 1024 := by
  constructor
  · rintro ⟨whole, -⟩
    exact (statementText_eq_render_iff (by decide)).mp whole
  · intro fits
    exact ⟨(statementText_eq_render_iff (by decide)).mpr fits, fun dialect =>
      dialect.run_statement statement sample listed shape clean fits⟩

/-- What the three functions send about a path is what was written for them. -/
structure StatementsIntended (userId parentId : UInt64) (path : Bytes) : Prop where
  lookup : SendsOnly (ArrivesWhole .selectNode (selectNodeText userId path))
    (daoPathGetNodeId userId path)
  insertion : SendsOnly
    (ArrivesWhole .insertDirectory
      (insertDirectoryText userId path parentId (lastComponent path)))
    (daoPathInsertDir userId path parentId (lastComponent path))
  metadata : ∀ stale, SendsOnly
    (ArrivesWhole .selectMetaLimit (selectMetaLimitText userId path))
    (daoGetFileMeta stale userId path)

section Intended

variable {userId parentId : UInt64} {path : Bytes}

theorem safe_lastComponent (safe : Sql.Safe path) : Sql.Safe (lastComponent path) := by
  rw [lastComponent]
  rcases split : splitAtLastSlash path with _ | ⟨before, name⟩
  · exact nofun
  · exact fun byte inside => safe byte (mem_splitAtLastSlash split (Or.inr inside))

theorem insertion_intended_iff (safe : Sql.Safe path) :
    SendsOnly
        (ArrivesWhole .insertDirectory
          (insertDirectoryText userId path parentId (lastComponent path)))
        (daoPathInsertDir userId path parentId (lastComponent path)) ↔
      (decimal userId).length + (decimal parentId).length + path.length +
        (lastComponent path).length ≤ 926 := by
  have clean : ∀ part ∈ insertDirectoryText userId path parentId (lastComponent path),
      part.Clean := by
    simp [insertDirectoryText, insertPathsText, Part.Clean, safe.verbatim,
      (safe_lastComponent safe).verbatim]
  rw [daoPathInsertDir, sendsOnly_databasePoolExecute,
    @arrivesWhole_iff _ _ (insertDirectoryText 0 [] 0 []) (by simp [statementSamples])
      (by simp [insertDirectoryText, insertPathsText, Part.SameShape]) clean,
    length_insertDirectoryText]
  omega

/-- The two queries fit for every path the table holds; the insertion fits as long
as the identifiers, the path and its last component have 926 bytes at most. -/
theorem statements_intended_iff (userId parentId : UInt64) {path : Bytes}
    (short : path.length ≤ 768) (safe : Sql.Safe path) :
    StatementsIntended userId parentId path ↔
      (decimal userId).length + (decimal parentId).length + path.length +
        (lastComponent path).length ≤ 926 := by
  have digits := length_decimal userId
  constructor
  · intro intended
    exact (insertion_intended_iff safe).mp intended.insertion
  · intro fits
    refine ⟨?_, (insertion_intended_iff safe).mpr fits, fun stale => ?_⟩
    · rw [sendsOnly_daoPathGetNodeId,
        @arrivesWhole_iff _ _ (selectNodeText 0 []) (by simp [statementSamples])
          (by simp [selectNodeText, Part.SameShape])
          (by simp [selectNodeText, Part.Clean, safe.verbatim]), length_selectNodeText]
      omega
    · rw [sendsOnly_daoGetFileMeta,
        @arrivesWhole_iff _ _ (selectMetaLimitText 0 []) (by simp [statementSamples])
          (by simp [selectMetaLimitText, selectMetaText, Part.SameShape])
          (by simp [selectMetaLimitText, selectMetaText, Part.Clean, safe.verbatim]),
        length_selectMetaLimitText]
      omega

theorem statements_intended_in_root :
    (ascii "/docs").length ≤ 768 ∧ Sql.Safe (ascii "/docs") ∧
      StatementsIntended 1 1 (ascii "/docs") :=
  ⟨by decide, by decide, (statements_intended_iff 1 1 (by decide) (by decide)).mpr
    (by decide)⟩

/-- A directory of 254 bytes in one of 512 bytes. -/
def longPath : Bytes :=
  pathOf [List.replicate 512 97, List.replicate 254 97]

theorem insertion_of_longPath_is_cut :
    IsCanonical longPath ∧ longPath.length ≤ 768 ∧
      (lastComponent longPath).length ≤ 254 ∧ Sql.Safe longPath ∧
      ¬StatementsIntended 1 1 longPath := by
  have first : IsComponent (List.replicate 512 97) :=
    ⟨by decide +kernel, by decide +kernel, by decide +kernel, by decide +kernel⟩
  have second : IsComponent (List.replicate 254 97) :=
    ⟨by decide +kernel, by decide +kernel, by decide +kernel, by decide +kernel⟩
  have safe : Sql.Safe longPath := by decide +kernel
  refine ⟨⟨_, ?_, rfl⟩, by decide +kernel, by decide +kernel, safe, fun intended => ?_⟩
  · intro part listed
    rcases List.mem_cons.mp listed with rfl | later
    · exact first
    · rw [List.mem_singleton.mp later]
      exact second
  · exact absurd ((insertion_intended_iff safe).mp intended.insertion) (by decide +kernel)

end Intended

end CloudDrive
