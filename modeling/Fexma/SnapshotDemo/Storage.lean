import Fexma.Library.CrashProgram
import Fexma.SnapshotDemo.SnapshotLoader
import Mathlib.Logic.Function.Basic

/-! The directory of snapshots on a file system whose steps take effect in program order: the
calls that the sink makes, what each leaves behind when it is cut short, and what the loader
finds. Renaming is atomic, and a cut write leaves any prefix of its bytes. -/
namespace Fexma.SnapshotDemo

open CrashProgram

/-- What is found at a path. -/
inductive Tree where
  | absent
  | file (bytes : List UInt8)
  | directory (entries : String → Tree)

namespace Tree

def emptyDirectory : Tree := directory fun _ => absent

def entry : Tree → String → Tree
  | directory entries, name => entries name
  | _, _ => absent

/-- Only directories have entries to replace. -/
def setEntry (tree : Tree) (name : String) (node : Tree) : Tree :=
  match tree with
  | directory entries => directory (Function.update entries name node)
  | tree => tree

def isAbsent : Tree → Bool
  | absent => true
  | _ => false

def isDirectory : Tree → Bool
  | directory _ => true
  | _ => false

def fileEntry : Tree → FileEntry
  | absent => .missing
  | file bytes => .regular bytes
  | directory _ => .irregular

/-- What is left of a tree when the paths that are not kept have been removed. -/
def prune (kept : List String → Bool) : Tree → Tree
  | absent => absent
  | file bytes => if kept [] then file bytes else absent
  | directory entries =>
    if kept [] then directory fun name => prune (fun path => kept (name :: path)) (entries name)
    else absent

theorem prune_all (tree : Tree) : prune (fun _ => true) tree = tree := by
  induction tree with
  | absent => rfl
  | file bytes => rfl
  | directory entries ih => exact congrArg directory (funext ih)

@[simp] theorem setEntry_entry (tree : Tree) (name : String) :
    tree.setEntry name (tree.entry name) = tree := by
  cases tree with
  | directory entries => exact congrArg directory (Function.update_eq_self name entries)
  | _ => rfl

theorem entry_setEntry_ne {tree node : Tree} {name other : String} (apart : other ≠ name) :
    (tree.setEntry name node).entry other = tree.entry other := by
  cases tree with
  | directory entries => exact Function.update_of_ne apart node entries
  | _ => rfl

end Tree

/-! ### Calls -/

/-- What a call that is cut short leaves behind: whether a step that is all or nothing was
taken, how much of a write arrived, and which paths a removal has left. -/
structure Remnant where
  taken : Bool := false
  written : Option ℕ := none
  kept : List String → Bool := fun _ => true

abbrev StorageCall := Call Tree Remnant
abbrev StorageProgram := Program Tree Remnant

/-- A step that is taken as a whole or not at all. -/
def atomicCall (apply : Tree → Option Tree) : StorageCall where
  apply := apply
  torn part root := if part.taken then (apply root).getD root else root
  untouched _ := ⟨{}, rfl⟩

theorem torn_atomicCall {apply : Tree → Option Tree} {holds : Tree → Prop} {root : Tree}
    (before : holds root) (behind : ∀ after, apply root = some after → holds after) (part : Remnant) :
    holds ((atomicCall apply).torn part root) := by
  change holds (if part.taken then (apply root).getD root else root)
  split
  · cases applied : apply root with
    | none => exact before
    | some after => exact behind after applied
  · exact before

/-- `std::filesystem::create_directories` of the root. -/
def createDirectories : StorageCall := atomicCall fun root =>
  match root with
  | .absent => some .emptyDirectory
  | .directory entries => some (.directory entries)
  | .file _ => none

/-- `std::filesystem::remove_all`. -/
def removeAll (name : String) : StorageCall where
  apply root := some (root.setEntry name .absent)
  torn part root := root.setEntry name ((root.entry name).prune part.kept)
  untouched root := ⟨{}, by rw [Tree.prune_all, Tree.setEntry_entry]⟩

/-- `std::filesystem::create_directory`: nothing may be in its place. -/
def createDirectory (name : String) : StorageCall := atomicCall fun root =>
  if (root.entry name).isAbsent then some (root.setEntry name .emptyDirectory) else none

def setFile (root : Tree) (directory name : String) (bytes : List UInt8) : Tree :=
  root.setEntry directory ((root.entry directory).setEntry name (.file bytes))

/-- `std::fopen` for writing: the file is created or truncated. -/
def openBinaryFile (directory name : String) : StorageCall := atomicCall fun root =>
  if !(root.entry directory).isDirectory || ((root.entry directory).entry name).isDirectory then none
  else some (setFile root directory name [])

/-- Bytes on their way to an open file: a prefix has arrived, if any. -/
def tornWrite (directory name : String) (bytes : List UInt8) (part : Remnant) (root : Tree) : Tree :=
  match part.written with
  | none => root
  | some count => setFile root directory name (bytes.take count)

/-- `std::fwrite`: nothing needs to arrive before the buffer is flushed. -/
def writeFile (directory name : String) (bytes : List UInt8) : StorageCall where
  apply root := some root
  torn := tornWrite directory name bytes
  untouched _ := ⟨{}, rfl⟩

def flushFile (directory name : String) (bytes : List UInt8) : StorageCall where
  apply root := some (setFile root directory name bytes)
  torn := tornWrite directory name bytes
  untouched _ := ⟨{}, rfl⟩

/-- `fsync`, `fclose` and the synchronisation of a directory change nothing that can be read. -/
def syncCall : StorageCall := atomicCall some

@[simp] theorem torn_syncCall (part : Remnant) (root : Tree) : syncCall.torn part root = root := by
  change (if part.taken then root else root) = root
  exact ite_self root

/-- `std::filesystem::rename` within a directory. A file takes the place of a file; a directory
that is in the way is never replaced here. -/
def renameEntry (source target : String) (tree : Tree) : Option Tree :=
  match tree.entry source, tree.entry target with
  | .absent, _ => none
  | .file _, .directory _ => none
  | .directory entries, .absent =>
    some ((tree.setEntry target (.directory entries)).setEntry source .absent)
  | .directory _, _ => none
  | .file bytes, _ => some ((tree.setEntry target (.file bytes)).setEntry source .absent)

def renameFile (directory source target : String) : StorageCall := atomicCall fun root =>
  (renameEntry source target (root.entry directory)).map (root.setEntry directory)

def renameDirectory (source target : String) : StorageCall := atomicCall (renameEntry source target)

/-! ### The snapshots in a directory -/

def snapshotName (generationId : UInt64) : String := "snapshot-" ++ toString generationId.toNat

def stagingName (generationId : UInt64) : String := snapshotName generationId ++ ".pending"

def hashChainFile : String := "hash_chain.snapshot"
def bitAccumulatorFile : String := "bit_accumulator.snapshot"
def descriptionFile : String := "snapshot.description"
def pendingDescriptionFile : String := "snapshot.description.pending"

/-- The three files of a snapshot directory. -/
def snapshotFiles (directory : Tree) : SnapshotFiles where
  description := (directory.entry descriptionFile).fileEntry
  hashChain := (directory.entry hashChainFile).fileEntry
  bitAccumulator := (directory.entry bitAccumulatorFile).fileEntry

/-- `SnapshotLoader::load` on what is found at the root. -/
def SnapshotLoader.loadFrom (loader : SnapshotLoader) (root : Tree) (generationId : UInt64) :
    SnapshotLoadResult :=
  loader.load (snapshotFiles (root.entry (snapshotName generationId))) generationId

private theorem toList_snapshotName (generationId : UInt64) : (snapshotName generationId).toList =
    "snapshot-".toList ++ Nat.toDigits 10 generationId.toNat := by
  rw [snapshotName, String.toList_append]
  exact congrArg _ Nat.toList_repr

theorem snapshotName_injective {generationId other : UInt64}
    (same : snapshotName generationId = snapshotName other) : generationId = other := by
  have digits := congrArg String.toList same
  rw [toList_snapshotName, toList_snapshotName] at digits
  have numbers := congrArg (Nat.ofDigitChars 10 · 0) (List.append_cancel_left digits)
  simp only [Nat.ofDigitChars_ten_toDigits] at numbers
  exact UInt64.toNat_inj.mp numbers

/-- A staging directory is no snapshot: its name has a dot behind the digits. -/
theorem snapshotName_ne_stagingName (generationId other : UInt64) :
    snapshotName generationId ≠ stagingName other := by
  intro same
  have digits := congrArg String.toList same
  rw [stagingName, String.toList_append, toList_snapshotName, toList_snapshotName,
    List.append_assoc] at digits
  have tail := List.append_cancel_left digits
  have dot : '.' ∈ Nat.toDigits 10 generationId.toNat := by
    rw [tail]
    exact List.mem_append_right _ (by decide)
  exact absurd (Nat.isDigit_of_mem_toDigits (by decide) (by decide) dot) (by decide)

end Fexma.SnapshotDemo
