import CloudDrive.TaskEnvironment
import CloudDrive.Runs

/-!
# Operations handled one at a time

Sequences of `register`, `mkdir`, `rmdir`, `puts` and `rm` from the empty
database, with any statement, commit or file operation allowed to fail.
-/

namespace CloudDrive

inductive OperationKind where
  | register | mkdir | rmdir | puts | rm
deriving DecidableEq

structure Operation where
  kind : OperationKind
  task : TransferTask
  choices : Nat → Choice

namespace Operation

def handler (operation : Operation) : Handler Unit :=
  match operation.kind with
  | .register => operation.task.handleRegister
  | .mkdir => operation.task.handleMkdir
  | .rmdir => operation.task.handleRmdir
  | .puts => operation.task.handlePuts
  | .rm => operation.task.handleRm

/-- The calls that the operation makes, with their answers. -/
def log (dialect : Dialect) (database : Database) (operation : Operation) :
    List (Prog.Exchange TaskOp.Answer) :=
  operation.handler.exchanges (performTask dialect) operation.choices database

def step (dialect : Dialect) (database : Database) (operation : Operation) :
    Option Database :=
  some (operation.handler.eval (performTask dialect) operation.choices
    database).2

/-- The paths that `mkdir` and `rmdir` splice into statements hold no quote and
no backslash. -/
def Quotable (operation : Operation) : Prop :=
  operation.kind = .mkdir ∨ operation.kind = .rmdir →
    operation.task.toHandlerTask.Quotable

theorem handler_keeps {operation : Operation} (quotable : operation.Quotable) :
    Keeps .nothing operation.handler fun _ _ => True := by
  unfold handler
  split
  · exact HandlerTask.handleRegister_keeps _
  · exact HandlerTask.handleMkdir_keeps (quotable (Or.inl ‹_›))
  · exact HandlerTask.handleRmdir_keeps (quotable (Or.inr ‹_›))
  · exact TransferTask.handlePuts_keeps _ rfl
  · exact HandlerTask.handleRm_keeps _ rfl

theorem step_served {dialect : Dialect} {before after : Database}
    {operation : Operation} (consistent : before.Consistent)
    (quotable : operation.Quotable)
    (served : operation.step dialect before = some after) :
    Served before after (operation.log dialect before) := by
  cases served
  exact served_of_keeps consistent (handler_keeps quotable) rfl
    (Known.holds_nothing before) operation.choices

theorem run_consistent {dialect : Dialect} {operations : List Operation}
    {database : Database}
    (quotable : ∀ operation ∈ operations, operation.Quotable)
    (reached : runFrom (step dialect) Database.empty operations =
      some database) : database.Consistent :=
  runFrom_invariant_of_stepsMeet
    (fun _ _ _ consistent quotable served =>
      (step_served consistent quotable served).consistent)
    Database.consistent_empty (stepsMeet_of_forall quotable _) reached

/-- After every operation the reference counts are those of the rows, no hash
is stored twice and no reference dangles; an operation with a failed data access
has changed nothing; and `dao_rm_file` asks for the deletion of an object
exactly when it has removed the last path to it. -/
theorem references_counted_after_every_operation (dialect : Dialect)
    (operations : List Operation) (last : Operation)
    {before after : Database}
    (quotable : ∀ operation ∈ operations ++ [last], operation.Quotable)
    (reached : runFrom (step dialect) Database.empty operations = some before)
    (served : last.step dialect before = some after) :
    (∀ file ∈ after.tables.files,
      file.refs = references after.tables.paths file.id ∧ 1 ≤ file.refs) ∧
    (after.tables.files.map FileRow.hash).Nodup ∧
    (∀ row ∈ after.tables.paths, row.type = 0 →
      ∃ file ∈ after.tables.files, row.fileId = some file.id) ∧
    ((∃ exchange ∈ last.log dialect before, reportsFailure exchange = true) →
      after.tables = before.tables) ∧
    ∀ exchange ∈ last.log dialect before, ∀ answer,
      rmAnswer exchange = some answer → ∀ hash,
        answer = (.shouldDeletePhysical, hash) ↔
          DbSession.RemovesLast before after hash := by
  have consistent : before.Consistent := run_consistent
    (fun operation listed => quotable operation (List.mem_append_left _ listed))
    reached
  have result := step_served consistent (quotable last (by simp)) served
  refine ⟨fun file stored => ⟨?_, ?_⟩, result.consistent.hashes,
    result.consistent.filed, ?_, result.removed⟩
  · exact result.consistent.refs file stored
  · exact result.consistent.referenced file stored
  · rintro ⟨exchange, made, reported⟩
    exact result.failed exchange made reported

/-- A task of user 1 in the root directory. -/
def taskOf (payload : Bytes) : TransferTask where
  packet := ⟨0, 0, .empty, payload⟩
  session := ⟨⟨1, 1, ascii "a", ascii "/"⟩, fits_rootContext⟩
  transferTempDir := ascii "temp"
  storageRoot := ascii "storage"

def ordinary (kind : OperationKind) (payload : Bytes) : Operation :=
  ⟨kind, taskOf payload, fun _ => .ordinary⟩

/-- The first user makes a directory. -/
theorem references_counted_after_mkdir :
    ∃ before after,
      runFrom (step .plain) Database.empty
        [ordinary .register (ascii "a\nb")] = some before ∧
      (ordinary .mkdir (ascii "d")).step .plain before = some after ∧
      after.tables.paths.length = 2 ∧
      ((∃ exchange ∈ (ordinary .mkdir (ascii "d")).log .plain before,
        reportsFailure exchange = true) → after.tables = before.tables) := by
  refine ⟨_, _, rfl, rfl, by decide +kernel, ?_⟩
  refine (references_counted_after_every_operation .plain
    [ordinary .register (ascii "a\nb")] (ordinary .mkdir (ascii "d"))
    ?_ rfl rfl).2.2.2.1
  simp only [List.cons_append, List.nil_append, List.forall_mem_cons]
  refine ⟨?_, ?_, by simp⟩
  · rintro (register | register) <;> cases register
  · exact fun _ => by decide +kernel

/-- The quote in the name of a new directory ends the literal of its path, and
the rest of the name makes the row a reference to file 7, which does not
exist. -/
theorem mkdir_makes_dangling_reference :
    ∃ database,
      runFrom (step .plain) Database.empty
        [ordinary .register (ascii "a\nb"),
          ordinary .mkdir (ascii "x',7,1,'n',0)#")] = some database ∧
      ¬∀ row ∈ database.tables.paths, row.type = 0 →
        ∃ file ∈ database.tables.files, row.fileId = some file.id := by
  refine ⟨_, rfl, ?_⟩
  decide +kernel

end Operation

end CloudDrive
