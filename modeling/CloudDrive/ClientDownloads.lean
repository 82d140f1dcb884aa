import CloudDrive.ClientEnvironment
import CloudDrive.Runs

/-!
# Downloads in parallel

Any number of downloads that a transfer manager has admitted, interleaved at
every call.  Each writes to its partial file and renames it to its target; as
long as no target is the partial file of another download, a target keeps the
content its download was completed with.
-/

namespace CloudDrive

/-- What a download has open, and whether it has verified what it has read or
written. -/
inductive Phase where
  | idle (checked : Bool)
  /-- The target is open. -/
  | reading (fd : Nat) (checked : Bool)
  /-- The partial file is open. -/
  | writing (fd : Nat) (checked : Bool)
  /-- The partial file is verified and closed. -/
  | closed
  /-- The partial file is renamed to the target. -/
  | published
deriving DecidableEq

namespace Phase

/-- The calls of a download in each phase. -/
def Allows (task : ClientTask) : Phase → ClientOp → Prop
  | _, .canceled | _, .send _ | _, .recv => True
  | .idle _, .openFile path => path = task.targetPath
  | .idle _, .openOrCreate path => path = task.partPath
  | .reading own _, .fstat fd | .reading own _, .digest fd
  | .reading own _, .close fd => fd = own
  | .writing own _, .fstat fd | .writing own _, .truncate fd
  | .writing own _, .lseek fd _ | .writing own _, .write fd _
  | .writing own _, .fsync fd | .writing own _, .digest fd
  | .writing own _, .close fd => fd = own
  | .closed, .rename source target =>
      source = task.partPath ∧ target = task.targetPath
  | _, _ => False

def learn (phase : Phase) (op : ClientOp) (answer : op.Answer) : Phase :=
  match phase, op, answer with
  | .idle _, .openFile _, some fd => .reading fd false
  | .idle _, .openOrCreate _, some fd => .writing fd false
  | .reading fd _, .digest _, some _ => .reading fd true
  | .reading _ checked, .close _, _ => .idle checked
  | .writing fd _, .truncate _, _ | .writing fd _, .write .., _ =>
      .writing fd false
  | .writing fd _, .digest _, some _ => .writing fd true
  | .writing _ checked, .close _, _ => if checked then .closed else .idle false
  | .closed, .rename .., renamed => if renamed then .published else .idle false
  | phase, _, _ => phase

@[simp]
theorem learn_canceled (phase : Phase) (answer : Bool) :
    phase.learn .canceled answer = phase := by
  cases phase <;> rfl

@[simp]
theorem learn_send (phase : Phase) (packet : Packet) (answer : Bool) :
    phase.learn (.send packet) answer = phase := by
  cases phase <;> rfl

@[simp]
theorem learn_recv (phase : Phase) (answer : Option Packet) :
    phase.learn .recv answer = phase := by
  cases phase <;> rfl

@[simp]
theorem allows_canceled (task : ClientTask) (phase : Phase) :
    phase.Allows task .canceled := by
  cases phase <;> trivial

@[simp]
theorem allows_send (task : ClientTask) (phase : Phase) (packet : Packet) :
    phase.Allows task (.send packet) := by
  cases phase <;> trivial

@[simp]
theorem allows_recv (task : ClientTask) (phase : Phase) :
    phase.Allows task .recv := by
  cases phase <;> trivial

end Phase

namespace ClientTask

variable (task : ClientTask)

/-- A program follows the phases. -/
abbrev Follows {α : Type} (phase : Phase) (program : ClientProgram α)
    (post : α → Phase → Prop) : Prop :=
  program.Obeys (Phase.Allows task) Phase.learn phase post

theorem follows_taskSend (phase : Phase) (type : CmdType) (status : StatusCode)
    (payload : Bytes) :
    task.Follows phase (task.taskSend type status payload)
      fun _ after => after = phase := by
  refine Prog.Obeys.ask (phase.allows_canceled task) fun canceled => ?_
  rw [phase.learn_canceled]
  split_ifs
  · rfl
  · rfl
  · exact ⟨phase.allows_send task _, fun sent => phase.learn_send _ sent⟩

theorem follows_taskRecv (phase : Phase) :
    task.Follows phase task.taskRecv fun _ after => after = phase := by
  refine Prog.Obeys.ask (phase.allows_canceled task) fun canceled => ?_
  rw [phase.learn_canceled]
  split_ifs
  · rfl
  · refine Prog.Obeys.ask (phase.allows_recv task) fun received => ?_
    rw [phase.learn_recv]
    split
    · rfl
    · split_ifs
      · exact (task.follows_taskSend phase _ _ _).bind fun _ _ same => same
      · rfl

theorem follows_reportError (phase : Phase) (status : StatusCode) :
    task.Follows phase (task.reportError status)
      fun result after => result = false ∧ after = phase := by
  refine Prog.Obeys.ask (phase.allows_canceled task) fun canceled => ?_
  rw [phase.learn_canceled]
  split_ifs
  · exact ⟨rfl, rfl⟩
  · exact (task.follows_taskSend phase _ _ _).bind fun _ _ same => ⟨rfl, same⟩

/-- The end of a download: one that returns zero has renamed its partial file
or has verified its target. -/
abbrev Concludes (result : Bool) (phase : Phase) : Prop :=
  result = true → phase = .published ∨ phase = .idle true

theorem follows_closeWith_reading {fd : Nat} {checked : Bool}
    {body : ClientProgram Bool}
    (follows : task.Follows (.reading fd checked) body
      fun result after => after = .reading fd checked ∧
        (result = true → checked = true)) :
    task.Follows (.reading fd checked) (closeWith fd body) Concludes := by
  refine follows.bind fun result after concluded => ?_
  obtain ⟨rfl, verified⟩ := concluded
  exact ⟨rfl, fun _ succeeded => Or.inr (by rw [← verified succeeded]; rfl)⟩

theorem follows_closeWith_failed {fd : Nat} {phase : Phase}
    {body : ClientProgram Bool}
    (isOpen : ∃ checked, phase = .reading fd checked ∨ phase = .writing fd checked)
    (follows : task.Follows phase body
      fun result after => result = false ∧ after = phase) :
    task.Follows phase (closeWith fd body) Concludes := by
  refine follows.bind fun result after concluded => ?_
  obtain ⟨rfl, rfl⟩ := concluded
  obtain ⟨checked, rfl | rfl⟩ := isOpen
  · exact ⟨rfl, fun _ succeeded => by cases succeeded⟩
  · exact ⟨rfl, fun _ succeeded => by cases succeeded⟩

/-- `hash_matches` on the target or on the partial file. -/
theorem follows_hashMatches {fd : Nat} {phase : Bool → Phase}
    (isOpen : phase = .reading fd ∨ phase = .writing fd) (checked : Bool)
    (size : UInt64) (expected : Bytes) :
    task.Follows (phase checked) (hashMatches fd size expected)
      fun result after => ∃ verified, after = phase verified ∧
        (result = true → verified = true) := by
  rcases isOpen with rfl | rfl
  all_goals
    refine Prog.Obeys.ask rfl fun actualSize => ?_
    split
    · exact ⟨checked, rfl, fun isTrue => by cases isTrue⟩
    · split_ifs
      · exact ⟨checked, rfl, fun isTrue => by cases isTrue⟩
      · refine Prog.Obeys.ask rfl fun digest => ?_
        split
        · exact ⟨checked, rfl, fun isTrue => by cases isTrue⟩
        · exact ⟨true, rfl, fun _ => rfl⟩

theorem follows_writeN {fd : Nat} {checked : Bool} (fuel : Nat) (data : Bytes) :
    task.Follows (.writing fd checked) (writeN fd fuel data)
      fun _ after => ∃ verified, after = .writing fd verified := by
  induction fuel generalizing data checked with
  | zero => exact ⟨checked, rfl⟩
  | succ fuel inductionHypothesis =>
      cases data with
      | nil => exact ⟨checked, rfl⟩
      | cons byte rest =>
          refine Prog.Obeys.ask rfl fun written => ?_
          split
          · exact ⟨false, rfl⟩
          · exact inductionHypothesis _

theorem follows_receiveData {fd : Nat} {checked : Bool} (fuel remaining : Nat) :
    task.Follows (.writing fd checked) (task.receiveData fd fuel remaining)
      fun _ after => ∃ verified, after = .writing fd verified := by
  induction fuel generalizing remaining checked with
  | zero => exact ⟨checked, rfl⟩
  | succ fuel inductionHypothesis =>
      cases remaining with
      | zero => exact ⟨checked, rfl⟩
      | succ remaining =>
          refine Prog.Obeys.ask trivial fun canceled => ?_
          change task.Follows (.writing fd checked) _ _
          split_ifs
          · exact ⟨checked, rfl⟩
          · refine (task.follows_taskRecv _).bind fun received after same => ?_
            subst same
            split
            · exact ⟨checked, rfl⟩
            · split_ifs
              · exact (task.follows_reportError _ _).mono
                  fun _ _ reported => ⟨checked, reported.2⟩
              · refine (task.follows_writeN _ _).bind fun written after writes => ?_
                obtain ⟨verified, rfl⟩ := writes
                split_ifs
                · exact (task.follows_reportError _ _).mono
                    fun _ _ reported => ⟨verified, reported.2⟩
                · exact inductionHypothesis _

theorem follows_endDownload_reading {fd : Nat} (info : FileInfo) :
    task.Follows (.reading fd true) (task.endDownload fd info true) Concludes := by
  refine (task.follows_taskRecv _).bind fun received after same => ?_
  subst same
  split
  · exact task.follows_closeWith_failed ⟨true, Or.inl rfl⟩ ⟨rfl, rfl⟩
  · split_ifs with unexpected useFinal
    · exact task.follows_closeWith_failed ⟨true, Or.inl rfl⟩
        (task.follows_reportError _ _)
    · exact task.follows_closeWith_reading
        ((task.follows_taskSend _ _ _ _).mono fun _ _ same => ⟨same, fun _ => rfl⟩)
    · exact absurd rfl useFinal

theorem follows_endDownload_writing {fd : Nat} {checked : Bool}
    (info : FileInfo) :
    task.Follows (.writing fd checked) (task.endDownload fd info false)
      Concludes := by
  have fails : ∀ {checked : Bool} {status : StatusCode},
      task.Follows (.writing fd checked) (closeWith fd (task.reportError status))
        Concludes :=
    fun {checked} => task.follows_closeWith_failed ⟨checked, Or.inr rfl⟩
      (task.follows_reportError _ _)
  refine (task.follows_taskRecv _).bind fun received after same => ?_
  subst same
  split
  · exact task.follows_closeWith_failed ⟨checked, Or.inr rfl⟩ ⟨rfl, rfl⟩
  · split_ifs with unexpected useFinal
    · exact fails
    · cases useFinal
    refine Prog.Obeys.ask rfl fun synced => ?_
    change task.Follows (.writing fd checked) _ _
    split_ifs
    · exact fails
    refine (task.follows_hashMatches (Or.inr rfl) checked _ _).bind
      fun matched after verified => ?_
    obtain ⟨verified, rfl, isVerified⟩ := verified
    split_ifs with isMatch
    · exact fails
    rw [Bool.not_eq_true, Bool.not_eq_false'] at isMatch
    rw [isVerified isMatch]
    refine Prog.Obeys.ask rfl fun _ => ?_
    refine Prog.Obeys.ask ⟨rfl, rfl⟩ fun renamed => ?_
    cases renamed with
    | false =>
        exact (task.follows_reportError _ _).mono fun _ _ failed succeeded => by
          rw [failed.1] at succeeded
          cases succeeded
    | true =>
        exact (task.follows_taskSend _ _ _ _).mono fun _ _ same _ => Or.inl same

theorem follows_resumeAt {fd : Nat} {checked : Bool} (info : FileInfo)
    (offset : UInt64) :
    task.Follows (.writing fd checked) (task.resumeAt fd info offset)
      Concludes := by
  refine Prog.Obeys.ask rfl fun moved => ?_
  change task.Follows (.writing fd checked) _ _
  split_ifs
  · exact task.follows_closeWith_failed ⟨checked, Or.inr rfl⟩
      (task.follows_reportError _ _)
  refine (task.follows_taskSend _ _ _ _).bind fun sent after same => ?_
  subst same
  split_ifs
  · exact task.follows_closeWith_failed ⟨checked, Or.inr rfl⟩ ⟨rfl, rfl⟩
  refine (task.follows_receiveData _ _).bind fun received after writes => ?_
  obtain ⟨verified, rfl⟩ := writes
  split_ifs
  · exact task.follows_closeWith_failed ⟨verified, Or.inr rfl⟩ ⟨rfl, rfl⟩
  · exact task.follows_endDownload_writing info

theorem follows_downloadPart {checked : Bool} (info : FileInfo) :
    task.Follows (.idle checked) (task.downloadPart info) Concludes := by
  refine Prog.Obeys.ask rfl fun opened => ?_
  cases opened with
  | none =>
      exact (task.follows_reportError _ _).mono fun _ _ failed succeeded => by
        rw [failed.1] at succeeded
        cases succeeded
  | some fd =>
      refine Prog.Obeys.ask rfl fun measured => ?_
      change task.Follows (.writing fd false) _ _
      split
      · exact task.follows_closeWith_failed ⟨false, Or.inr rfl⟩
          (task.follows_reportError _ _)
      · split_ifs
        · refine Prog.Obeys.ask rfl fun truncated => ?_
          change task.Follows (.writing fd false) _ _
          split_ifs
          · exact task.follows_closeWith_failed ⟨false, Or.inr rfl⟩
              (task.follows_reportError _ _)
          · exact task.follows_resumeAt info 0
        · exact task.follows_resumeAt info _

/-- A verified target is not written to. -/
theorem follows_downloadFrom_reading {fd : Nat} (info : FileInfo) :
    task.Follows (.reading fd true)
      (task.downloadFrom fd info info.fileSize true) Concludes := by
  refine (task.follows_taskSend _ _ _ _).bind fun sent after same => ?_
  subst same
  split_ifs
  · exact task.follows_closeWith_failed ⟨true, Or.inl rfl⟩ ⟨rfl, rfl⟩
  · have nothing : task.receiveData fd (info.fileSize - info.fileSize).toNat
        (info.fileSize - info.fileSize).toNat = pure true := by
      rw [UInt64.sub_self]
      rfl
    dsimp only
    rw [nothing]
    exact task.follows_endDownload_reading info

theorem follows_runDownload :
    task.Follows (.idle false) task.runDownload Concludes := by
  have nothing : ∀ {phase : Phase},
      task.Follows phase (pure false) Concludes :=
    fun succeeded => by cases succeeded
  refine (task.follows_taskSend _ _ _ _).bind fun sent after same => ?_
  subst same
  split_ifs
  · exact nothing
  refine (task.follows_taskRecv _).bind fun received after same => ?_
  subst same
  split
  · exact nothing
  · split_ifs
    · exact nothing
    split
    · exact nothing
    · rename_i info _
      rw [downloadFile]
      split_ifs
      · exact (task.follows_reportError _ _).mono fun _ _ failed succeeded => by
          rw [failed.1] at succeeded
          cases succeeded
      · refine Prog.Obeys.ask rfl fun opened => ?_
        cases opened with
        | none => exact task.follows_downloadPart info
        | some fd =>
            refine (task.follows_hashMatches (Or.inl rfl) false _ _).bind
              fun matched after verified => ?_
            obtain ⟨verified, rfl, isVerified⟩ := verified
            split_ifs with isMatch
            · rw [isVerified isMatch]
              exact task.follows_downloadFrom_reading info
            · refine Prog.Obeys.ask rfl fun _ => ?_
              exact task.follows_downloadPart info

end ClientTask

/-- The bytes that were verified are those of a name. -/
def Verified (files : ClientFiles) (verified : Option Bytes) (name : Bytes) :
    Prop :=
  verified ≠ none ∧ files.content name = verified

/-- The bytes whose digest was computed last. -/
def noteDigest (files : ClientFiles) (verified : Option Bytes) (op : ClientOp)
    (answer : op.Answer) : Option Bytes :=
  match op, answer with
  | .digest fd, some _ => files.bytes fd
  | _, _ => verified

namespace Phase

/-- The descriptor that is open. -/
def fd : Phase → Option Nat
  | reading fd _ | writing fd _ => some fd
  | _ => none

/-- What is known in each phase. -/
def Holds (files : ClientFiles) (task : ClientTask) (verified : Option Bytes) :
    Phase → Prop
  | idle checked => checked = true → Verified files verified task.targetPath
  | reading fd checked => files.Refers fd task.targetPath ∧
      (checked = true → Verified files verified task.targetPath)
  | writing fd checked => files.Refers fd task.partPath ∧
      (checked = true → Verified files verified task.partPath)
  | closed => Verified files verified task.partPath
  | published => Verified files verified task.targetPath

variable {files after : ClientFiles} {task : ClientTask}
  {verified : Option Bytes} {phase : Phase}

theorem Verified.of_same {name : Bytes} (holds : Verified files verified name)
    (same : FileSystem.SameAt files after name) : Verified after verified name :=
  ⟨holds.1, same.content.trans holds.2⟩

/-- What is known is about two names and one descriptor. -/
theorem Holds.of_same (holds : phase.Holds files task verified)
    (part : FileSystem.SameAt files after task.partPath)
    (target : FileSystem.SameAt files after task.targetPath)
    (descriptors : ∀ fd, phase.fd = some fd →
      after.descriptors fd = files.descriptors fd) :
    phase.Holds after task verified := by
  cases phase with
  | idle checked => exact fun isChecked => Verified.of_same (holds isChecked) target
  | reading fd checked =>
      exact ⟨holds.1.of_same target.names (descriptors fd rfl),
        fun isChecked => Verified.of_same (holds.2 isChecked) target⟩
  | writing fd checked =>
      exact ⟨holds.1.of_same part.names (descriptors fd rfl),
        fun isChecked => Verified.of_same (holds.2 isChecked) part⟩
  | closed => exact Verified.of_same holds part
  | published => exact Verified.of_same holds target

theorem Holds.isOpen (holds : phase.Holds files task verified) {fd : Nat}
    (own : phase.fd = some fd) : files.descriptors fd ≠ none := by
  cases phase with
  | idle | closed | published => cases own
  | reading | writing =>
      cases own
      obtain ⟨⟨opened, isOpen, -⟩, -⟩ := holds
      simp [isOpen]

/-- What a call of a download does to the files: its own two names may change,
and its target only by the rename. -/
structure Effect (task : ClientTask) (phase next : Phase) (op : ClientOp)
    (files after : ClientFiles) (verified : Option Bytes) : Prop where
  holds : next.Holds after task verified
  others : ∀ name, name ≠ task.partPath → name ≠ task.targetPath →
    FileSystem.SameAt files after name
  target : FileSystem.SameAt files after task.targetPath ∨
    op = .rename task.partPath task.targetPath ∧
      after.content task.targetPath = files.content task.partPath
  descriptors : ∀ fd, phase.fd ≠ some fd → files.descriptors fd ≠ none →
    after.descriptors fd = files.descriptors fd
  opened : ∀ fd, next.fd = some fd →
    phase.fd = some fd ∨ files.descriptors fd = none

/-- A call that changes nothing. -/
theorem Effect.refl {op : ClientOp} {next : Phase}
    (holds : next.Holds files task verified) (same : next.fd = phase.fd) :
    Effect task phase next op files files verified :=
  ⟨holds, fun name _ _ => FileSystem.SameAt.refl files name,
    Or.inl (FileSystem.SameAt.refl files _), fun _ _ _ => rfl,
    fun _ own => Or.inl (same ▸ own)⟩

/-- A call that opens, moves or closes one descriptor. -/
theorem Effect.of_descriptor {op : ClientOp} {next : Phase} {fd : Nat}
    {value : Option Descriptor} (holds : next.Holds after task verified)
    (names : after.names = files.names)
    (contents : after.contents = files.contents)
    (descriptors : after.descriptors = Function.update files.descriptors fd value)
    (own : phase.fd = some fd ∨ files.descriptors fd = none)
    (opened : ∀ other, next.fd = some other → other = fd) :
    Effect task phase next op files after verified where
  holds := holds
  others := fun _ _ _ => FileSystem.sameAt_of_eq names contents
  target := Or.inl (FileSystem.sameAt_of_eq names contents)
  descriptors := by
    intro other notOwn isOpen
    rw [descriptors, Function.update_of_ne]
    rintro rfl
    exact own.elim notOwn isOpen
  opened := fun other isNext => opened other isNext ▸ own

section Calls

variable (apart : task.targetPath ≠ task.partPath)

include apart

/-- A call that writes to the partial file. -/
theorem Effect.of_replace {op : ClientOp} {fd : Nat} {checked : Bool}
    {data : Descriptor → Bytes} (refers : files.Refers fd task.partPath)
    (refersAfter : after.Refers fd task.partPath)
    (names : after.names = files.names)
    (contents : after.contents = (files.replace fd data).contents)
    (descriptors : ∀ other, other ≠ fd →
      after.descriptors other = files.descriptors other) :
    Effect task (.writing fd checked) (.writing fd false) op files after
      verified := by
  have others : ∀ name, name ≠ task.partPath →
      FileSystem.SameAt files after name := fun name notPart =>
    (refers.sameAt_replace data notPart).trans
      (FileSystem.sameAt_of_eq names contents)
  exact ⟨⟨refersAfter, fun isTrue => by cases isTrue⟩,
    fun name notPart _ => others name notPart, Or.inl (others _ apart),
    fun other notOwn _ => descriptors other fun same =>
      notOwn (by rw [same]; rfl),
    fun _ isOwn => Or.inl isOwn⟩

/-- Every call of a download has an effect of this kind. -/
theorem effect_performClient {sha256 : Sha256} {choice : ClientChoice}
    {op : ClientOp} {answer : op.Answer}
    (holds : phase.Holds files task verified) (allowed : phase.Allows task op)
    (performed : performClient sha256 choice op files = (answer, after)) :
    Effect task phase (phase.learn op answer) op files after
      (noteDigest files verified op answer) := by
  cases op with
  | canceled =>
      cases performed
      rw [learn_canceled]
      exact Effect.refl holds rfl
  | send packet =>
      cases performed
      rw [learn_send]
      exact Effect.refl holds rfl
  | recv =>
      cases performed
      rw [learn_recv]
      exact Effect.refl holds rfl
  | openFile path =>
      cases phase with
      | idle checked =>
          subst allowed
          rcases openClient_existing performed with
            ⟨rfl, rfl⟩ | ⟨rfl, free, rfl, file, named⟩
          · exact Effect.refl holds rfl
          · exact Effect.of_descriptor
              ⟨FileSystem.refers_openFile named, fun isTrue => by cases isTrue⟩
              rfl rfl rfl (Or.inr free) (fun _ own => by cases own; rfl)
      | _ => cases allowed
  | openOrCreate path =>
      cases phase with
      | idle checked =>
          subst allowed
          rcases openClient_creates performed with ⟨rfl, rfl⟩ | ⟨rfl, free, rfl⟩
          · exact Effect.refl holds rfl
          · refine ⟨⟨FileSystem.refers_openOrCreate, fun isTrue => by cases isTrue⟩,
              fun name notPart _ => FileSystem.sameAt_openOrCreate notPart,
              Or.inl (FileSystem.sameAt_openOrCreate apart),
              fun other _ isOpen => FileSystem.descriptors_openOrCreate ?_,
              fun fd own => Or.inr (by cases own; exact free)⟩
            rintro rfl
            exact isOpen free
      | _ => cases allowed
  | fstat fd =>
      cases performed
      cases phase with
      | reading | writing => exact Effect.refl holds rfl
      | _ => cases allowed
  | truncate fd =>
      cases phase with
      | writing own checked =>
          subst allowed
          rw [performClient] at performed
          split_ifs at performed <;> cases performed
          · exact Effect.refl ⟨holds.1, fun isTrue => by cases isTrue⟩ rfl
          · exact Effect.of_replace apart holds.1 (holds.1.of_same rfl rfl) rfl rfl
              fun _ _ => rfl
      | _ => cases allowed
  | lseek fd offset =>
      cases phase with
      | writing own checked =>
          subst allowed
          rw [performClient] at performed
          split_ifs at performed <;> cases performed
          · exact Effect.refl holds rfl
          · exact Effect.of_descriptor ⟨holds.1.seek _, holds.2⟩ rfl rfl rfl
              (Or.inl rfl) (fun _ own => by cases own; rfl)
      | _ => cases allowed
  | read => cases phase <;> cases allowed
  | write fd data =>
      cases phase with
      | writing own checked =>
          subst allowed
          rw [performClient] at performed
          split_ifs at performed <;> cases performed
          · exact Effect.of_replace apart holds.1
              (FileSystem.Refers.seek (holds.1.of_same rfl rfl) _) rfl rfl
              fun _ different => Function.update_of_ne different _ _
          · exact Effect.refl ⟨holds.1, fun isTrue => by cases isTrue⟩ rfl
      | _ => cases allowed
  | fsync fd =>
      cases performed
      cases phase with
      | writing => exact Effect.refl holds rfl
      | _ => cases allowed
  | digest fd =>
      rw [performClient] at performed
      cases phase with
      | reading own checked | writing own checked =>
          subst allowed
          split_ifs at performed
          · cases performed
            exact Effect.refl holds rfl
          · obtain ⟨bytes, isBytes⟩ := holds.1.exists_bytes
            rw [isBytes] at performed
            cases performed
            refine Effect.of_descriptor ⟨holds.1.seek _, fun _ => ⟨?_, ?_⟩⟩ rfl rfl
              rfl (Or.inl rfl) (fun _ own => by cases own; rfl)
            · simp [noteDigest, isBytes]
            · exact holds.1.bytes.symm
      | _ => cases allowed
  | close fd =>
      cases performed
      cases phase with
      | reading own checked =>
          subst allowed
          exact Effect.of_descriptor (fun isChecked => holds.2 isChecked) rfl rfl
            rfl (Or.inl rfl) (fun _ none => by cases none)
      | writing own checked =>
          subst allowed
          cases checked with
          | false =>
              exact Effect.of_descriptor (fun isTrue => by cases isTrue) rfl rfl
                rfl (Or.inl rfl) (fun _ none => by cases none)
          | true =>
              exact Effect.of_descriptor (holds.2 rfl) rfl rfl rfl (Or.inl rfl)
                (fun _ none => by cases none)
      | _ => cases allowed
  | rename source target =>
      cases phase with
      | closed =>
          obtain ⟨rfl, rfl⟩ := allowed
          rw [performClient] at performed
          split_ifs at performed with fails
          · cases performed
            exact Effect.refl (fun isTrue => by cases isTrue) rfl
          · cases performed
            have present : files.names task.partPath ≠ none :=
              fun missing => fails (Or.inr missing)
            have content : (files.rename task.partPath task.targetPath).content
                task.targetPath = files.content task.partPath :=
              FileSystem.content_rename present
            exact ⟨⟨holds.1, content.trans holds.2⟩,
              fun name notPart notTarget =>
                FileSystem.sameAt_rename notPart notTarget,
              Or.inr ⟨rfl, content⟩,
              fun _ _ _ => by rw [FileSystem.descriptors_rename],
              fun _ isOwn => by cases isOwn⟩
      | _ => cases allowed

end Calls

end Phase

/-- A worker thread of the client. -/
structure Worker where
  task : ClientTask
  program : ClientProgram Bool
  /-- The bytes whose digest the worker has computed last. -/
  verified : Option Bytes
  /-- The worker has left the list of active tasks. -/
  finished : Bool

/-- The downloads of a transfer manager, in the order of their admission. -/
structure Downloads where
  maxConcurrent : Nat
  stopping : Bool
  files : ClientFiles
  workers : List Worker
  /-- The content with which the last successful download of a target was
  completed. -/
  completed : Bytes → Option Bytes

inductive DownloadMove where
  /-- `transfer_submit_download`; the new worker may fail to connect. -/
  | submit (runtime : ClientRuntime) (remotePath : CText) (created connected : Bool)
  | call (index : Nat) (choice : ClientChoice)
  /-- `finish_task`. -/
  | finish (index : Nat) (canceled : Bool)
  /-- The beginning of `transfer_manager_stop`. -/
  | stop

namespace Downloads

/-- No worker has started yet. -/
def initial (maxConcurrent : Nat) (files : ClientFiles) : Downloads :=
  ⟨maxConcurrent, false, files, [], fun _ => none⟩

def manager (state : Downloads) : TransferManager where
  active := (state.workers.filter (!·.finished)).map Worker.task
  maxConcurrent := state.maxConcurrent
  stopping := state.stopping

def step (sha256 : Sha256) (state : Downloads) :
    DownloadMove → Option Downloads
  | .submit runtime remotePath created connected =>
      match transferSubmitDownload state.manager created runtime remotePath with
      | none => some state
      | some (task, _) =>
          let program := if connected then task.runDownload else pure false
          some { state with
            workers := state.workers ++ [⟨task, program, none, false⟩] }
  | .call index choice =>
      match state.workers[index]? with
      | none => none
      | some worker =>
          match worker.program, worker.finished with
          | .call op next, false =>
              let (answer, files) := performClient sha256 choice op state.files
              some { state with
                files
                workers := state.workers.set index
                  { worker with
                    program := next answer
                    verified :=
                      noteDigest state.files worker.verified op answer } }
          | _, _ => none
  | .finish index canceled =>
      match state.workers[index]? with
      | none => none
      | some worker =>
          match worker.program, worker.finished with
          | .done result, false =>
              some { state with
                workers := state.workers.set index { worker with finished := true }
                completed :=
                  if result && !canceled then
                    Function.update state.completed worker.task.targetPath
                      worker.verified
                  else state.completed }
          | _, _ => none
  | .stop => some { state with stopping := true }

/-- The next call is no rename that replaces a completed target by another
content. -/
def KeepsCompleted (state : Downloads) : ClientProgram Bool → Prop
  | .call (.rename source target) _ =>
      ∀ content ∈ state.completed target,
        state.files.content source = some content
  | _ => True

/-- No target is the partial file of another download, and a target that was
completed is replaced by the same content only. -/
def Undisturbed (state : Downloads) : DownloadMove → Prop
  | .submit runtime remotePath _ _ =>
      ∀ task ∈ runtime.downloadTask remotePath, ∀ worker ∈ state.workers,
        worker.task.targetPath ≠ task.targetPath ++ partSuffix ∧
          task.targetPath ≠ worker.task.targetPath ++ partSuffix
  | .call index _ =>
      ∀ worker ∈ state.workers[index]?, state.KeepsCompleted worker.program
  | _ => True

instance (state : Downloads) (program : ClientProgram Bool) :
    Decidable (state.KeepsCompleted program) := by
  unfold KeepsCompleted
  split <;> infer_instance

instance (state : Downloads) (move : DownloadMove) :
    Decidable (state.Undisturbed move) := by
  unfold Undisturbed
  split <;> infer_instance

def Active (state : Downloads) (index : Nat) (worker : Worker) : Prop :=
  state.workers[index]? = some worker ∧ worker.finished = false

/-- The invariant, with the phases of the workers. -/
structure Tidy (phases : Nat → Phase) (state : Downloads) : Prop where
  kinds : ∀ worker ∈ state.workers, worker.task.kind = .download ∧
    worker.task.partPath = worker.task.targetPath ++ partSuffix
  apart : ∀ first ∈ state.workers, ∀ second ∈ state.workers,
    first.task.targetPath ≠ second.task.partPath
  distinct : ∀ {first second left right}, state.Active first left →
    state.Active second right → first ≠ second →
      left.task.targetPath ≠ right.task.targetPath
  follows : ∀ {index worker}, state.Active index worker →
    worker.task.Follows (phases index) worker.program ClientTask.Concludes
  holds : ∀ {index worker}, state.Active index worker →
    (phases index).Holds state.files worker.task worker.verified
  descriptors : ∀ {first second left right fd}, state.Active first left →
    state.Active second right → first ≠ second →
      (phases first).fd = some fd → (phases second).fd ≠ some fd
  completed : ∀ {target content}, state.completed target = some content →
    (∃ worker ∈ state.workers, worker.task.targetPath = target) ∧
      state.files.content target = some content

section Steps

variable {sha256 : Sha256} {state after : Downloads} {phases : Nat → Phase}

theorem Active.mem {index : Nat} {worker : Worker}
    (active : state.Active index worker) : worker ∈ state.workers :=
  List.mem_of_getElem? active.1

/-- A worker that is still active after a change of one worker. -/
theorem active_set {index other : Nat} {worker changed : Worker}
    {files : ClientFiles} {completed : Bytes → Option Bytes}
    (active : Active
      { state with
        files, completed, workers := state.workers.set index changed }
      other worker) :
    other = index ∧ worker = changed ∨
      other ≠ index ∧ state.Active other worker := by
  obtain ⟨found, unfinished⟩ := active
  by_cases same : other = index
  · subst same
    rw [List.getElem?_set] at found
    simp only [if_true] at found
    split_ifs at found
    cases found
    exact Or.inl ⟨rfl, rfl⟩
  · rw [List.getElem?_set_ne (Ne.symm same)] at found
    exact Or.inr ⟨same, found, unfinished⟩

/-- Changing a worker keeps the tasks. -/
theorem exists_of_mem_set {index : Nat} {worker changed other : Worker}
    (found : state.workers[index]? = some worker)
    (sameTask : changed.task = worker.task)
    (listed : other ∈ state.workers.set index changed) :
    ∃ former ∈ state.workers, former.task = other.task := by
  rcases List.mem_or_eq_of_mem_set listed with old | rfl
  · exact ⟨other, old, rfl⟩
  · exact ⟨worker, List.mem_of_getElem? found, sameTask.symm⟩

theorem exists_mem_set {index : Nat} {worker changed former : Worker}
    (found : state.workers[index]? = some worker)
    (sameTask : changed.task = worker.task) (listed : former ∈ state.workers) :
    ∃ other ∈ state.workers.set index changed, other.task = former.task := by
  obtain ⟨place, isPlace⟩ := List.getElem?_of_mem listed
  by_cases same : place = index
  · subst same
    cases found.symm.trans isPlace
    exact ⟨changed, List.mem_set (List.getElem?_eq_some_iff.mp found).1 changed,
      sameTask⟩
  · exact ⟨former, List.mem_of_getElem?
      ((List.getElem?_set_ne (Ne.symm same)).trans isPlace), rfl⟩

/-- One active worker changes, and with it its phase and the files. -/
theorem Tidy.of_set (tidy : Tidy phases state) {index : Nat}
    {worker changed : Worker} {files : ClientFiles}
    {completed : Bytes → Option Bytes} {phase : Phase}
    (active : state.Active index worker) (sameTask : changed.task = worker.task)
    (follows : changed.finished = false →
      changed.task.Follows phase changed.program ClientTask.Concludes)
    (holds : changed.finished = false →
      phase.Holds files changed.task changed.verified)
    (others : ∀ {other current}, other ≠ index → state.Active other current →
      (phases other).Holds files current.task current.verified)
    (opened : ∀ {other current fd}, other ≠ index → state.Active other current →
      (phases other).fd = some fd → phase.fd ≠ some fd)
    (contents : ∀ {target content}, completed target = some content →
      (∃ owner ∈ state.workers, owner.task.targetPath = target) ∧
        files.content target = some content) :
    Tidy (Function.update phases index phase)
      { state with
        files, completed, workers := state.workers.set index changed } := by
  have former : ∀ {other : Worker}, other ∈ state.workers.set index changed →
      ∃ old ∈ state.workers, old.task = other.task :=
    fun isListed => exists_of_mem_set active.1 sameTask isListed
  refine ⟨?_, ?_, ?_, ?_, ?_, ?_, ?_⟩
  · intro other isListed
    obtain ⟨old, isOld, same⟩ := former isListed
    exact same ▸ tidy.kinds old isOld
  · intro first isFirst second isSecond
    obtain ⟨oldFirst, wasFirst, sameFirst⟩ := former isFirst
    obtain ⟨oldSecond, wasSecond, sameSecond⟩ := former isSecond
    exact sameFirst ▸ sameSecond ▸ tidy.apart _ wasFirst _ wasSecond
  · intro first second left right isLeft isRight different
    rcases active_set isLeft with ⟨rfl, rfl⟩ | ⟨-, oldLeft⟩ <;>
      rcases active_set isRight with ⟨rfl, rfl⟩ | ⟨-, oldRight⟩
    · exact absurd rfl different
    · exact sameTask ▸ tidy.distinct active oldRight different
    · exact sameTask ▸ tidy.distinct oldLeft active different
    · exact tidy.distinct oldLeft oldRight different
  · intro other current isCurrent
    rcases active_set isCurrent with ⟨rfl, rfl⟩ | ⟨different, old⟩
    · rw [Function.update_self]
      exact follows isCurrent.2
    · rw [Function.update_of_ne different]
      exact tidy.follows old
  · intro other current isCurrent
    rcases active_set isCurrent with ⟨rfl, rfl⟩ | ⟨different, old⟩
    · rw [Function.update_self]
      exact holds isCurrent.2
    · rw [Function.update_of_ne different]
      exact others different old
  · intro first second left right fd isLeft isRight different own
    rcases active_set isLeft with ⟨rfl, rfl⟩ | ⟨notFirst, oldLeft⟩ <;>
      rcases active_set isRight with ⟨rfl, rfl⟩ | ⟨notSecond, oldRight⟩
    · exact absurd rfl different
    · rw [Function.update_self] at own
      rw [Function.update_of_ne notSecond]
      exact fun isOwn => opened notSecond oldRight isOwn own
    · rw [Function.update_of_ne notFirst] at own
      rw [Function.update_self]
      exact opened notFirst oldLeft own
    · rw [Function.update_of_ne notFirst] at own
      rw [Function.update_of_ne notSecond]
      exact tidy.descriptors oldLeft oldRight different own
  · intro target content isCompleted
    obtain ⟨⟨owner, isOwner, rfl⟩, present⟩ := contents isCompleted
    obtain ⟨other, isOther, same⟩ := exists_mem_set active.1 sameTask isOwner
    exact ⟨⟨other, isOther, by rw [same]⟩, present⟩

/-- A call of one worker. -/
theorem Tidy.call (tidy : Tidy phases state) {index : Nat} {worker : Worker}
    {op : ClientOp} {next : op.Answer → ClientProgram Bool}
    {choice : ClientChoice} {answer : op.Answer} {files : ClientFiles}
    (active : state.Active index worker)
    (calls : worker.program = .call op next)
    (performed : performClient sha256 choice op state.files = (answer, files))
    (undisturbed : state.Undisturbed (.call index choice)) :
    Tidy (Function.update phases index ((phases index).learn op answer))
      { state with
        files
        workers := state.workers.set index
          { worker with
            program := next answer
            verified := noteDigest state.files worker.verified op answer } } := by
  have listed := active.mem
  have follows := tidy.follows active
  rw [calls] at follows
  have effect := Phase.effect_performClient (tidy.apart _ listed _ listed)
    (tidy.holds active) follows.1 performed
  refine tidy.of_set active rfl (fun _ => follows.2 answer)
    (fun _ => effect.holds) (fun {other current} different old => ?_)
    (fun {other current fd} different old own isOwn => ?_)
    (fun {target content} isCompleted => ?_)
  · have targets := tidy.distinct old active different
    have parts : current.task.partPath ≠ worker.task.partPath := by
      rw [(tidy.kinds _ old.mem).2, (tidy.kinds _ listed).2]
      exact fun same => targets (List.append_cancel_right same)
    exact (tidy.holds old).of_same
      (effect.others _ parts (tidy.apart _ listed _ old.mem).symm)
      (effect.others _ (tidy.apart _ old.mem _ listed) targets)
      fun fd own => effect.descriptors fd
        (tidy.descriptors old active different own) ((tidy.holds old).isOpen own)
  · rcases effect.opened fd isOwn with before | free
    · exact tidy.descriptors old active different own before
    · exact (tidy.holds old).isOpen own free
  · obtain ⟨⟨owner, isOwner, rfl⟩, present⟩ := tidy.completed isCompleted
    refine ⟨⟨owner, isOwner, rfl⟩, ?_⟩
    by_cases same : owner.task.targetPath = worker.task.targetPath
    · rw [same] at isCompleted present ⊢
      rcases effect.target with unchanged | ⟨rfl, moved⟩
      · exact unchanged.content.trans present
      · have keeps := undisturbed worker active.1
        rw [calls] at keeps
        exact moved.trans (keeps content isCompleted)
    · exact (effect.others _ (tidy.apart _ isOwner _ listed) same).content.trans
        present

/-- The end of one worker. -/
theorem Tidy.finish (tidy : Tidy phases state) {index : Nat} {worker : Worker}
    {result : Bool} (canceled : Bool) (active : state.Active index worker)
    (ended : worker.program = .done result) :
    Tidy (Function.update phases index (phases index))
      { state with
        workers := state.workers.set index { worker with finished := true }
        completed :=
          if result && !canceled then
            Function.update state.completed worker.task.targetPath worker.verified
          else state.completed } := by
  refine tidy.of_set active rfl (fun unfinished => by cases unfinished)
    (fun unfinished => by cases unfinished)
    (fun _ old => tidy.holds old)
    (fun different old own => tidy.descriptors old active different own)
    (fun {target content} isCompleted => ?_)
  split_ifs at isCompleted with succeeded
  · by_cases same : target = worker.task.targetPath
    · subst same
      rw [Function.update_self] at isCompleted
      have concludes := tidy.follows active
      rw [ended] at concludes
      have verified : Verified state.files worker.verified
          worker.task.targetPath := by
        have holds := tidy.holds active
        rcases concludes (by simp_all) with published | idle
        · rw [published] at holds
          exact holds
        · rw [idle] at holds
          exact holds rfl
      exact ⟨⟨worker, active.mem, rfl⟩, verified.2.trans isCompleted⟩
    · rw [Function.update_of_ne same] at isCompleted
      exact tidy.completed isCompleted
  · exact tidy.completed isCompleted

theorem active_append {index : Nat} {worker new : Worker}
    (active : Active { state with workers := state.workers ++ [new] }
      index worker) :
    index = state.workers.length ∧ worker = new ∨
      index ≠ state.workers.length ∧ state.Active index worker := by
  obtain ⟨found, unfinished⟩ := active
  rcases Nat.lt_trichotomy index state.workers.length with
    inside | rfl | outside
  · rw [List.getElem?_append_left inside] at found
    exact Or.inr ⟨by omega, found, unfinished⟩
  · exact Or.inl ⟨rfl, by simpa using found.symm⟩
  · rw [List.getElem?_eq_none_iff.mpr (by simp; omega)] at found
    cases found

/-- One worker is added. -/
theorem Tidy.of_append (tidy : Tidy phases state) {new : Worker}
    (isDownload : new.task.kind = .download)
    (part : new.task.partPath = new.task.targetPath ++ partSuffix)
    (apart : ∀ worker ∈ state.workers,
      worker.task.targetPath ≠ new.task.targetPath ++ partSuffix ∧
        new.task.targetPath ≠ worker.task.targetPath ++ partSuffix)
    (unused : ∀ {index worker}, state.Active index worker →
      worker.task.targetPath ≠ new.task.targetPath)
    (follows : new.task.Follows (.idle false) new.program
      ClientTask.Concludes) :
    Tidy (Function.update phases state.workers.length (.idle false))
      { state with workers := state.workers ++ [new] } := by
  have ownParts : new.task.targetPath ≠ new.task.partPath := by
    rw [part]
    intro same
    simpa [partSuffix, ascii] using congrArg List.length same
  have listed : ∀ {worker : Worker}, worker ∈ state.workers ++ [new] →
      worker ∈ state.workers ∨ worker = new := fun isListed =>
    (List.mem_append.mp isListed).imp_right List.mem_singleton.mp
  refine ⟨?_, ?_, ?_, ?_, ?_, ?_, ?_⟩
  · intro worker isListed
    rcases listed isListed with old | rfl
    · exact tidy.kinds worker old
    · exact ⟨isDownload, part⟩
  · intro first isFirst second isSecond
    rcases listed isFirst with oldFirst | rfl <;>
      rcases listed isSecond with oldSecond | rfl
    · exact tidy.apart _ oldFirst _ oldSecond
    · exact part ▸ (apart _ oldFirst).1
    · exact (tidy.kinds _ oldSecond).2 ▸ (apart _ oldSecond).2
    · exact ownParts
  · intro first second left right isLeft isRight different
    rcases active_append isLeft with ⟨rfl, rfl⟩ | ⟨-, oldLeft⟩ <;>
      rcases active_append isRight with ⟨rfl, rfl⟩ | ⟨-, oldRight⟩
    · exact absurd rfl different
    · exact (unused oldRight).symm
    · exact unused oldLeft
    · exact tidy.distinct oldLeft oldRight different
  · intro index worker isActive
    rcases active_append isActive with ⟨rfl, rfl⟩ | ⟨different, old⟩
    · rw [Function.update_self]
      exact follows
    · rw [Function.update_of_ne different]
      exact tidy.follows old
  · intro index worker isActive
    rcases active_append isActive with ⟨rfl, rfl⟩ | ⟨different, old⟩
    · rw [Function.update_self]
      exact fun isTrue => by cases isTrue
    · rw [Function.update_of_ne different]
      exact tidy.holds old
  · intro first second left right fd isLeft isRight different own
    rcases active_append isLeft with ⟨rfl, rfl⟩ | ⟨notFirst, oldLeft⟩
    · rw [Function.update_self] at own
      cases own
    · rw [Function.update_of_ne notFirst] at own
      rcases active_append isRight with ⟨rfl, rfl⟩ | ⟨notSecond, oldRight⟩
      · rw [Function.update_self]
        exact fun isOwn => by cases isOwn
      · rw [Function.update_of_ne notSecond]
        exact tidy.descriptors oldLeft oldRight different own
  · intro target content isCompleted
    obtain ⟨⟨owner, isOwner, same⟩, present⟩ := tidy.completed isCompleted
    exact ⟨⟨owner, List.mem_append_left _ isOwner, same⟩, present⟩

/-- The admission of a download. -/
theorem Tidy.submit (tidy : Tidy phases state) {runtime : ClientRuntime}
    {remotePath : CText} {created : Bool} (connected : Bool) {task : ClientTask}
    {manager : TransferManager}
    (submitted : transferSubmitDownload state.manager created runtime remotePath =
      some (task, manager))
    (undisturbed : state.Undisturbed
      (.submit runtime remotePath created connected)) :
    Tidy (Function.update phases state.workers.length (.idle false))
      { state with
        workers := state.workers ++ [⟨task,
          if connected then task.runDownload else pure false, none, false⟩] } := by
  obtain ⟨made, prepared, submitted⟩ := Option.bind_eq_some_iff.mp submitted
  obtain ⟨started, admitted, submitted⟩ := Option.bind_eq_some_iff.mp submitted
  cases submitted
  obtain ⟨-, -, part, isDownload⟩ := ClientRuntime.prepares_downloadTask prepared
  refine tidy.of_append isDownload part (undisturbed task prepared) ?_ ?_
  · intro index worker active same
    rw [TransferManager.startTask] at admitted
    split_ifs at admitted with full busy
    exact busy ⟨isDownload, worker.task,
      List.mem_map.mpr ⟨worker, List.mem_filter.mpr
        ⟨active.mem, by rw [active.2]; rfl⟩, rfl⟩,
      (tidy.kinds _ active.mem).1, same⟩
  · cases connected with
    | true => exact task.follows_runDownload
    | false => exact fun succeeded => by cases succeeded

/-- Every step keeps the invariant. -/
theorem Tidy.step {move : DownloadMove} (tidy : ∃ phases, Tidy phases state)
    (undisturbed : state.Undisturbed move)
    (stepped : state.step sha256 move = some after) :
    ∃ phases, Tidy phases after := by
  obtain ⟨phases, tidy⟩ := tidy
  cases move with
  | submit runtime remotePath created connected =>
      rw [Downloads.step] at stepped
      split at stepped
      · cases stepped
        exact ⟨phases, tidy⟩
      · rename_i submitted
        cases stepped
        exact ⟨_, tidy.submit connected submitted undisturbed⟩
  | call index choice =>
      rw [Downloads.step] at stepped
      split at stepped
      · cases stepped
      · rename_i worker found
        split at stepped
        · rename_i op next calls unfinished
          cases stepped
          exact ⟨_, tidy.call ⟨found, unfinished⟩ calls rfl undisturbed⟩
        · cases stepped
  | finish index canceled =>
      rw [Downloads.step] at stepped
      split at stepped
      · cases stepped
      · rename_i worker found
        split at stepped
        · rename_i result ended unfinished
          cases stepped
          exact ⟨_, tidy.finish canceled ⟨found, unfinished⟩ ended⟩
        · cases stepped
  | stop =>
      cases stepped
      exact ⟨phases, tidy.kinds, tidy.apart, tidy.distinct, tidy.follows,
        tidy.holds, tidy.descriptors, tidy.completed⟩

end Steps

/-- A function with two digests. -/
def someSha256 : Sha256 := fun data =>
  if data = [] then ⟨List.replicate 64 97, isDigest_others⟩
  else ⟨List.replicate 64 98, isDigest_replicate⟩

/-- One file of one byte in the download directory. -/
def someFiles : ClientFiles := .single (ascii "d/a.part") [1]

/-- The download of a file of the root directory. -/
def submitFile (remotePath : CText) : DownloadMove :=
  .submit { someRuntime with downloadDir := ⟨ascii "d", by decide⟩ } remotePath
    true true

/-- A call that receives a packet. -/
def receives (type : CmdType) (payload : Bytes) : ClientChoice :=
  { ClientChoice.ordinary with
    received := some (Packet.init type .ok someRuntime.sessionId payload) }

/-- The download of `a.part`, which is in the download directory already. -/
def downloadOnce : List DownloadMove :=
  submitFile ⟨ascii "/a.part", by decide⟩ ::
    ([.ordinary, .ordinary, .ordinary,
      receives .getsResp (FileMeta.payload
        ⟨0, 0, ascii "a.part", 1, List.replicate 64 98⟩),
      .ordinary, .ordinary, .ordinary, .ordinary, .ordinary, .ordinary,
      receives .fileEnd [], .ordinary, .ordinary, .ordinary].map (.call 0)) ++
    [.finish 0 false]

end Downloads

end CloudDrive
