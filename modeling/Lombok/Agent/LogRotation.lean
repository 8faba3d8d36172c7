import Mathlib.Data.List.Basic

/-!
Contract: how a worker agent rotates a log file that it holds open.

Owns the chain of rotated files, the file that is held, `rotateTarget` with every
call to the operating system that can fail in it, and when the log goes on: the
generations are kept in order whatever fails, but a call that fails between the
closing of the file and the opening of the next one leaves no file to write to.

Does not own what is written to the log, the checks of the interval, nor files
that another process writes.
-/

namespace Lombok.Agent.LogRotation

/-! ### Files -/

abbrev Content := List UInt8

/-- Slot 0 is the path of the log, slot `i` the path with `.i` behind it. -/
abbrev Directory := Nat → Option Content

namespace Directory

/-- `os.Remove`; a file that does not exist is no different. -/
def remove (files : Directory) (slot : Nat) : Directory :=
  fun other => if other = slot then none else files other

/-- `os.Rename` over whatever stands at the new path. -/
def rename (files : Directory) (src dst : Nat) : Directory :=
  fun other => if other = dst then files src else if other = src then none else files other

/-- `os.OpenFile` with `O_CREATE` and `O_APPEND`. -/
def create (files : Directory) (slot : Nat) : Directory :=
  fun other => if other = slot then some ((files slot).getD []) else files other

end Directory

/-- The calls to the operating system; each of them is made once at most. -/
inductive Call where
  | statFile
  | close
  | remove (slot : Nat)
  | stat (slot : Nat)
  | rename (slot : Nat)
  | openFile
deriving DecidableEq

/-- Which calls fail. -/
abbrev Failures := Call → Bool

/-- The `*os.File` that is held. -/
structure LogFile where
  size : Nat
  isOpen : Bool
deriving DecidableEq

structure RotationTarget where
  files : Directory
  file : Option LogFile

structure LogRotationConfig where
  maxSizeMB : Int
  maxFiles : Int

namespace LogRotationConfig

/-- The product wraps like an `int64`. -/
def maxSizeBytes (cfg : LogRotationConfig) : Int :=
  let bytes := (cfg.maxSizeMB * 1024 * 1024).bmod 18446744073709551616
  if bytes ≤ 0 then 1 else bytes

def count (cfg : LogRotationConfig) : Nat :=
  if cfg.maxFiles < 1 then 1 else cfg.maxFiles.toNat

theorem count_pos (cfg : LogRotationConfig) : 0 < cfg.count := by
  unfold count
  split <;> omega

end LogRotationConfig

/-! ### The rotation -/

def renameIfExists (failures : Failures) (src dst : Nat) (files : Directory) :
    Except Call Directory :=
  if failures (.stat src) then .error (.stat src)
  else if (files src).isNone then .ok files
  else if failures (.rename src) then .error (.rename src)
  else .ok (files.rename src dst)

/-- The loop over the rotated files from the given one down to the first. -/
def renameLoop (failures : Failures) : Nat → Directory → Directory × Option Call
  | 0, files => (files, none)
  | i + 1, files =>
      match renameIfExists failures (i + 1) (i + 2) files with
      | .error call => (files, some call)
      | .ok renamed => renameLoop failures i renamed

/-- `rotateTarget` once the file is closed. -/
def rotateFiles (cfg : LogRotationConfig) (failures : Failures) (closed : RotationTarget) :
    RotationTarget × Option Call :=
  let kept := if failures (.remove cfg.count) then closed.files else closed.files.remove cfg.count
  let looped := renameLoop failures (cfg.count - 1) kept
  match looped.2 with
  | some call => ({ closed with files := looped.1 }, some call)
  | none =>
      match renameIfExists failures 0 1 looped.1 with
      | .error call => ({ closed with files := looped.1 }, some call)
      | .ok renamed =>
          if failures .openFile then ({ closed with files := renamed }, some .openFile)
          else (⟨renamed.create 0, some ⟨((renamed 0).getD []).length, true⟩⟩, none)

/-- The target after the rotation, and the call whose error is returned. A file that is closed has
no `Stat`. -/
def rotateTarget (cfg : LogRotationConfig) (failures : Failures) (target : RotationTarget) :
    RotationTarget × Option Call :=
  match target.file with
  | none => (target, none)
  | some file =>
      if !file.isOpen || failures .statFile then (target, some .statFile)
      else if file.size < cfg.maxSizeBytes then (target, none)
      else
        let closed : RotationTarget := ⟨target.files, some { file with isOpen := false }⟩
        if failures .close then (closed, some .close) else rotateFiles cfg failures closed

/-! ### The chain of files -/

/-- From `stop` on, the slots below `top` have moved up by one. -/
structure ShiftedFrom (stop top : Nat) (before after : Directory) : Prop where
  below : ∀ slot, slot < stop → after slot = before slot
  moved : ∀ slot, stop ≤ slot → slot + 1 < top → after (slot + 1) = before slot
  freed : stop < top → after stop = none
  last : stop < top → after top = (before (top - 1)).or (before top)
  untouched : stop = top → after top = before top
  older : ∀ slot, top < slot → after slot = before slot

theorem ShiftedFrom.start (top : Nat) (files : Directory) : ShiftedFrom top top files files where
  below _ _ := rfl
  moved slot reached inside := by omega
  freed inside := by omega
  last inside := by omega
  untouched _ := rfl
  older _ _ := rfl

/-- Neither looking at the slot nor renaming what stands there fails. -/
def Passes (failures : Failures) (files : Directory) (slot : Nat) : Prop :=
  failures (.stat slot) = false ∧ ((files slot).isSome = true → failures (.rename slot) = false)

variable {failures : Failures} {top : Nat} {before files after : Directory}
    {cfg : LogRotationConfig}

theorem renameIfExists_error {src dst : Nat} {call : Call}
    (failed : renameIfExists failures src dst files = .error call) :
    ¬Passes failures files src := by
  intro ⟨stat, rename⟩
  rw [renameIfExists, stat, if_neg Bool.false_ne_true] at failed
  by_cases gone : (files src).isNone = true
  · rw [if_pos gone] at failed
    cases failed
  · have there : (files src).isSome = true := by
      cases found : files src with
      | none => simp [found] at gone
      | some content => rfl
    grind

theorem renameIfExists_ok {src dst : Nat} {renamed : Directory}
    (done : renameIfExists failures src dst files = .ok renamed) :
    Passes failures files src ∧
      (files src = none ∧ renamed = files ∨
        ∃ content, files src = some content ∧ renamed = files.rename src dst) := by
  unfold renameIfExists at done
  by_cases stat : failures (.stat src) = true
  · rw [if_pos stat] at done
    cases done
  rw [if_neg stat] at done
  have statPasses := Bool.eq_false_iff.mpr stat
  cases found : files src with
  | none =>
      rw [found, if_pos Option.isNone_none] at done
      cases done
      exact ⟨⟨statPasses, by simp [found]⟩, .inl ⟨rfl, rfl⟩⟩
  | some content =>
      rw [found, if_neg (by simp)] at done
      by_cases rename : failures (.rename src) = true
      · rw [if_pos rename] at done
        cases done
      · rw [if_neg rename] at done
        cases done
        exact ⟨⟨statPasses, fun _ => Bool.eq_false_iff.mpr rename⟩, .inr ⟨content, rfl, rfl⟩⟩

/-- One file moves up, into the slot that the one before it has left. -/
theorem ShiftedFrom.step {i : Nat} {renamed : Directory}
    (shifted : ShiftedFrom (i + 1) top before files) (inside : i < top)
    (done : renameIfExists failures i (i + 1) files = .ok renamed) :
    ShiftedFrom i top before renamed := by
  have here := shifted.below i (Nat.lt_succ_self i)
  obtain ⟨_, ⟨gone, rfl⟩ | ⟨content, found, rfl⟩⟩ := renameIfExists_ok done
  · have nothing : before i = none := here ▸ gone
    constructor
    · intro slot below
      exact shifted.below slot (by omega)
    · grind [shifted.freed, shifted.moved]
    · intro _
      exact gone
    · grind [shifted.untouched, shifted.last]
    · intro same
      omega
    · exact shifted.older
  · have content' : before i = some content := here ▸ found
    constructor
    · grind [Directory.rename, shifted.below]
    · grind [Directory.rename, shifted.moved]
    · intro _
      rw [Directory.rename, if_neg (by omega), if_pos rfl]
    · grind [Directory.rename, shifted.last]
    · intro same
      omega
    · grind [Directory.rename, shifted.older]

theorem renameLoop_shifted :
    ∀ (i : Nat) (files : Directory), i < top → ShiftedFrom (i + 1) top before files →
      ∃ stop, ShiftedFrom (stop + 1) top before (renameLoop failures i files).1 ∧ stop ≤ i ∧
        ((renameLoop failures i files).2 = none →
          stop = 0 ∧ ∀ slot, 0 < slot → slot ≤ i → Passes failures before slot) ∧
        ∀ call, (renameLoop failures i files).2 = some call →
          ∃ slot ≤ i, ¬Passes failures before slot := by
  intro i
  induction i with
  | zero =>
      intro files _ shifted
      refine ⟨0, shifted, Nat.le_refl 0, fun _ => ⟨rfl, fun slot positive le => by omega⟩, ?_⟩
      nofun
  | succ i inductionHypothesis =>
      intro files inside shifted
      have here := shifted.below (i + 1) (Nat.lt_succ_self _)
      have samePasses : Passes failures files (i + 1) ↔ Passes failures before (i + 1) := by
        unfold Passes
        rw [here]
      rw [renameLoop]
      cases tried : renameIfExists failures (i + 1) (i + 2) files with
      | error call =>
          refine ⟨i + 1, shifted, Nat.le_refl _, ?_, fun _ _ =>
            ⟨i + 1, Nat.le_refl _, mt samePasses.mpr (renameIfExists_error tried)⟩⟩
          nofun
      | ok renamed =>
          obtain ⟨stop, shiftedThere, le, whenDone, whenFailed⟩ :=
            inductionHypothesis renamed (by omega) (shifted.step inside tried)
          refine ⟨stop, shiftedThere, by omega, ?_, ?_⟩
          · intro finished
            obtain ⟨isZero, passes⟩ := whenDone finished
            refine ⟨isZero, fun slot positive le => ?_⟩
            rcases Nat.lt_or_ge i slot with last | earlier
            · rw [show slot = i + 1 by omega]
              exact samePasses.mp (renameIfExists_ok tried).1
            · exact passes slot positive earlier
          · intro call failed
            grind

/-! ### What a rotation keeps -/

/-- The newest generations are still there, in the order they were in, and what is older than the
one that is dropped is as it was. -/
def KeepsGenerations (count : Nat) (before after : Directory) : Prop :=
  ∃ place : Nat → Nat, (∀ newer older, newer < older → place newer < place older) ∧
    (∀ slot content, slot < count → before slot = some content →
      after (place slot) = some content) ∧
    ∀ slot, count < slot → after slot = before slot

/-- Every generation is one older, and a new one is empty. -/
structure ShiftedByOne (count : Nat) (before after : Directory) : Prop where
  new : after 0 = some []
  moved : ∀ slot, slot < count → after (slot + 1) = before slot
  older : ∀ slot, count < slot → after slot = before slot

theorem KeepsGenerations.refl (count : Nat) (files : Directory) :
    KeepsGenerations count files files :=
  ⟨id, fun _ _ less => less, fun _ _ _ found => found, fun _ _ => rfl⟩

theorem ShiftedFrom.moved_of_some {stop : Nat} (shifted : ShiftedFrom stop top before after)
    {slot : Nat} {content : Content} (reached : stop ≤ slot) (inside : slot < top)
    (found : before slot = some content) :
    after (slot + 1) = some content := by
  grind [shifted.last, shifted.moved]

/-- What the oldest slot held when the chain began to move is of no account. -/
theorem ShiftedFrom.keepsGenerations {stop : Nat} {kept : Directory}
    (shifted : ShiftedFrom stop top kept after)
    (same : ∀ slot, slot ≠ top → kept slot = before slot) : KeepsGenerations top before after := by
  refine ⟨fun slot => if slot < stop then slot else slot + 1, ?_, ?_, ?_⟩
  · grind
  · grind [shifted.below, shifted.moved_of_some]
  · grind [shifted.older]

theorem keepsGenerations_create (freed : after 0 = none)
    (keeps : KeepsGenerations top before after) :
    KeepsGenerations top before (after.create 0) := by
  obtain ⟨place, ordered, there, older⟩ := keeps
  refine ⟨place, ordered, ?_, ?_⟩
  · grind [Directory.create]
  · grind [Directory.create]

def chainStart (cfg : LogRotationConfig) (failures : Failures) (files : Directory) : Directory :=
  if failures (.remove cfg.count) then files else files.remove cfg.count

theorem chainStart_other (cfg : LogRotationConfig) (failures : Failures) (files : Directory)
    {slot : Nat} (other : slot ≠ cfg.count) : chainStart cfg failures files slot = files slot := by
  unfold chainStart
  split
  · rfl
  · exact if_neg other

/-- How `rotateFiles` ends: at a slot that does not pass, before a new file, or with one. -/
inductive Rotated (cfg : LogRotationConfig) (failures : Failures) (closed : RotationTarget) :
    RotationTarget → Prop where
  | stopped {stop slot : Nat} {files : Directory} (inside : slot < cfg.count)
      (fails : ¬Passes failures closed.files slot)
      (shifted : ShiftedFrom stop cfg.count (chainStart cfg failures closed.files) files) :
      Rotated cfg failures closed ⟨files, closed.file⟩
  | unopened {files : Directory} (failed : failures .openFile = true)
      (shifted : ShiftedFrom 0 cfg.count (chainStart cfg failures closed.files) files) :
      Rotated cfg failures closed ⟨files, closed.file⟩
  | finished {files : Directory} {size : Nat} (opened : failures .openFile = false)
      (passes : ∀ slot, slot < cfg.count → Passes failures closed.files slot)
      (shifted : ShiftedFrom 0 cfg.count (chainStart cfg failures closed.files) files) :
      Rotated cfg failures closed ⟨files.create 0, some ⟨size, true⟩⟩

theorem rotateFiles_rotated (cfg : LogRotationConfig) (failures : Failures)
    (closed : RotationTarget) :
    Rotated cfg failures closed (rotateFiles cfg failures closed).1 := by
  have positive := cfg.count_pos
  have passes_iff : ∀ slot, slot < cfg.count →
      (Passes failures (chainStart cfg failures closed.files) slot ↔
        Passes failures closed.files slot) := by
    grind [Passes, chainStart_other]
  have start := ShiftedFrom.start cfg.count (chainStart cfg failures closed.files)
  obtain ⟨stop, shifted, within, whenDone, whenFailed⟩ := @renameLoop_shifted failures cfg.count
    (chainStart cfg failures closed.files) (cfg.count - 1) _ (by omega)
    (by rw [Nat.sub_add_cancel positive]; exact start)
  unfold rotateFiles
  rw [← chainStart]
  dsimp only
  cases looped : (renameLoop failures (cfg.count - 1)
      (chainStart cfg failures closed.files)).2 with
  | some call =>
      obtain ⟨slot, le, fails⟩ := whenFailed call looped
      exact .stopped (by omega) (mt (passes_iff slot (by omega)).mpr fails) shifted
  | none =>
      obtain ⟨rfl, passes⟩ := whenDone looped
      have base := shifted.below 0 Nat.zero_lt_one
      cases tried : renameIfExists failures 0 1 (renameLoop failures (cfg.count - 1)
          (chainStart cfg failures closed.files)).1 with
      | error call =>
          have fails := renameIfExists_error tried
          rw [Passes, base] at fails
          exact .stopped positive (mt (passes_iff 0 positive).mpr fails) shifted
      | ok renamed =>
          have moved := shifted.step positive tried
          have basePasses := (renameIfExists_ok tried).1
          rw [Passes, base] at basePasses
          cases opened : failures .openFile with
          | true => exact .unopened opened moved
          | false =>
              refine .finished opened (fun slot inside => (passes_iff slot inside).mp ?_) moved
              rcases Nat.eq_zero_or_pos slot with rfl | later
              · exact basePasses
              · exact passes slot later (by omega)

/-- Whatever fails, the files are kept in order. -/
theorem Rotated.keepsGenerations {closed after : RotationTarget}
    (rotated : Rotated cfg failures closed after) :
    KeepsGenerations cfg.count closed.files after.files := by
  have same := fun slot (other : slot ≠ cfg.count) =>
    chainStart_other cfg failures closed.files other
  cases rotated with
  | stopped _ _ shifted => exact shifted.keepsGenerations same
  | unopened _ shifted => exact shifted.keepsGenerations same
  | finished _ _ shifted =>
      exact keepsGenerations_create (shifted.freed cfg.count_pos) (shifted.keepsGenerations same)

/-! ### The main result -/

def RotationTarget.isWritable (target : RotationTarget) : Bool := target.file.any LogFile.isOpen

/-- The rotation goes further than looking at the file. -/
def RotationTarget.isDue (target : RotationTarget) (cfg : LogRotationConfig) : Bool :=
  target.file.any fun file => file.isOpen && decide (cfg.maxSizeBytes ≤ file.size)

/-- No call that the rotation needs fails: all but the removal of the oldest file. -/
structure Completes (cfg : LogRotationConfig) (failures : Failures) (files : Directory) :
    Prop where
  close : failures .close = false
  passes : ∀ slot, slot < cfg.count → Passes failures files slot
  openFile : failures .openFile = false

/-- The log goes on after the rotation, with all it held. -/
structure KeepsLog (cfg : LogRotationConfig) (failures : Failures) (before after : RotationTarget) :
    Prop where
  isWritable : before.isWritable = true → after.isWritable = true
  generations : KeepsGenerations cfg.count before.files after.files
  shifted : before.isDue cfg = true → (∀ call, failures call = false) →
    ShiftedByOne cfg.count before.files after.files

theorem ShiftedFrom.shiftedByOne
    (shifted : ShiftedFrom 0 cfg.count (chainStart cfg failures files) after)
    (removed : failures (.remove cfg.count) = false) :
    ShiftedByOne cfg.count files (after.create 0) := by
  have positive := cfg.count_pos
  have oldest : chainStart cfg failures files cfg.count = none := by
    rw [chainStart, removed, if_neg Bool.false_ne_true]
    exact if_pos rfl
  constructor
  · rw [Directory.create, if_pos rfl, shifted.freed positive]
    rfl
  · intro slot inside
    rw [Directory.create, if_neg (Nat.succ_ne_zero slot)]
    rcases Nat.eq_or_lt_of_le (Nat.succ_le_of_lt inside) with atTop | more
    · grind [chainStart_other, shifted.last]
    · rw [shifted.moved slot (Nat.zero_le slot) more,
        chainStart_other cfg failures files (by omega)]
  · intro slot older
    unfold Directory.create
    rw [if_neg (by omega), shifted.older slot older,
      chainStart_other cfg failures files (by omega)]

theorem rotateFiles_keepsLog_iff {target : RotationTarget} {file : LogFile}
    (held : target.file = some file) (isOpen : file.isOpen = true)
    (close : failures .close = false) :
    KeepsLog cfg failures target
        (rotateFiles cfg failures ⟨target.files, some { file with isOpen := false }⟩).1 ↔
      Completes cfg failures target.files := by
  have writable : target.isWritable = true := by
    rw [RotationTarget.isWritable, held]
    exact isOpen
  have rotated :=
    rotateFiles_rotated cfg failures ⟨target.files, some { file with isOpen := false }⟩
  have keeps := rotated.keepsGenerations
  revert rotated keeps
  generalize (rotateFiles cfg failures ⟨target.files, some { file with isOpen := false }⟩).1 = after
  intro rotated generations
  cases rotated with
  | stopped inside fails _ =>
      constructor
      · intro keeps
        cases keeps.isWritable writable
      · intro completes
        exact absurd (completes.passes _ inside) fails
  | unopened failed _ =>
      constructor
      · intro keeps
        cases keeps.isWritable writable
      · intro completes
        rw [completes.openFile] at failed
        cases failed
  | finished opened passes shifted =>
      constructor
      · intro _
        exact ⟨close, passes, opened⟩
      · intro _
        exact ⟨fun _ => rfl, generations, fun _ nothing => shifted.shiftedByOne (nothing _)⟩

/-- A rotation keeps the log exactly when it is not due, the file cannot be looked at, or every
call passes from the closing of the file to the opening of the next one. -/
theorem rotateTarget_keepsLog_iff (cfg : LogRotationConfig) (failures : Failures)
    (target : RotationTarget) :
    KeepsLog cfg failures target (rotateTarget cfg failures target).1 ↔
      (target.isDue cfg = true → failures .statFile = false →
        Completes cfg failures target.files) := by
  have unchanged : ∀ {after : RotationTarget}, after = target →
      ¬(target.isDue cfg = true ∧ failures .statFile = false) →
        (KeepsLog cfg failures target after ↔
          (target.isDue cfg = true → failures .statFile = false →
            Completes cfg failures target.files)) := by
    intro after isTarget idle
    rw [isTarget]
    constructor
    · intro _ due looked
      exact absurd ⟨due, looked⟩ idle
    · intro _
      refine ⟨id, .refl _ _, fun due nothing => ?_⟩
      exact absurd ⟨due, nothing _⟩ idle
  unfold rotateTarget
  cases held : target.file with
  | none =>
      apply unchanged rfl
      simp [RotationTarget.isDue, held]
  | some file =>
      dsimp only
      by_cases unseen : (!file.isOpen || failures .statFile) = true
      · rw [if_pos unseen]
        apply unchanged rfl
        intro ⟨due, looked⟩
        simp [RotationTarget.isDue, held] at due
        simp [due.1, looked] at unseen
      rw [if_neg unseen]
      simp only [Bool.or_eq_true, Bool.not_eq_true', not_or, Bool.not_eq_false,
        Bool.not_eq_true] at unseen
      obtain ⟨isOpen, looked⟩ := unseen
      by_cases small : file.size < cfg.maxSizeBytes
      · rw [if_pos small]
        apply unchanged rfl
        intro ⟨due, _⟩
        simp [RotationTarget.isDue, held] at due
        omega
      rw [if_neg small]
      have due : target.isDue cfg = true := by
        simp only [RotationTarget.isDue, held, Option.any_some, isOpen, Bool.true_and,
          decide_eq_true_eq]
        omega
      rw [imp_iff_right due, imp_iff_right looked]
      by_cases close : failures .close = true
      · rw [if_pos close]
        constructor
        · intro keeps
          have writable : target.isWritable = true := by
            rw [RotationTarget.isWritable, held]
            exact isOpen
          cases keeps.isWritable writable
        · intro completes
          rw [completes.close] at close
          cases close
      · rw [if_neg close]
        exact rotateFiles_keepsLog_iff held isOpen (Bool.eq_false_iff.mpr close)

/-- The renaming of the log itself fails: nothing is lost, and there is nothing to write to. -/
theorem rotateTarget_leavesClosed : ¬ ∀ (cfg : LogRotationConfig) (failures : Failures)
    (target : RotationTarget), KeepsLog cfg failures target
        (rotateTarget cfg failures target).1 := by
  intro claim
  have keeps := claim ⟨0, 2⟩ (fun call => call == .rename 0)
    ⟨fun slot => if slot = 0 then some [120] else none, some ⟨1, true⟩⟩
  cases keeps.isWritable rfl

end Lombok.Agent.LogRotation
