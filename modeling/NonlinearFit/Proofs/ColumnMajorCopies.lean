import NonlinearFit.Proofs.ArrayViews

/-!
# Column-major buffers in memory

By its type a `ColumnMajor` is a flat vector. An `OwnedMatrix` has a memory and steps by which its
entries lie in there. A matrix with any steps is copied into it and out of it entry by entry, and the
memory is handed out as a flat slice only if the entries fill it, which is checked every time
(`OwnedMatrix.flat`).

**Agreement.** A column-major buffer in memory is `ColumnMajor.owned`. Loading, storing and writing
do with it what the operations of `ColumnMajor` do (`owned_agrees`), and so does every run of such
operations on a buffer and its clones (`Copying.run_map`).

Entries are of any type, so what is exact here is exact to the last bit.

Main result: `ColumnMajor.exact_copies` says that after any run the flat slice of each buffer is
there and has its entries column after column, that loading and storing undo each other, and that a
copy of another shape panics and changes nothing.
-/

namespace NonlinearFit

variable {rows cols : Nat} {α : Type}

/-- Why an operation on a buffer panics. -/
inductive CopyPanic where
  | shape (m : LayoutMismatch)
  /-- The entries do not fill the memory. -/
  | gaps
  | index (k size : Nat)

/-! ## Matrices with their own memory -/

/-- A matrix of the same shape. -/
def Matrix.cast {r c : Nat} (m : Matrix r c α) (h : r = rows ∧ c = cols) : Matrix rows cols α :=
  h.elim fun (hr : r = rows) (hc : c = cols) => hr ▸ hc ▸ m

/-- A matrix that owns its memory. -/
structure OwnedMatrix (rows cols : Nat) (α : Type) where
  {size : Nat}
  memory : Vector α size
  layout : Destination rows cols size

namespace OwnedMatrix

/-- A new buffer, column after column. -/
def fill (rows cols : Nat) (v : α) : OwnedMatrix rows cols α :=
  ⟨.replicate (rows * cols) v, .columns rows cols (Nat.le_refl _)⟩

def zeros (rows cols : Nat) : OwnedMatrix rows cols Float := fill rows cols 0.0

/-- The matrix to be read. -/
def view (b : OwnedMatrix rows cols α) : MatrixView rows cols α := b.layout.view b.memory

/-- The memory as a flat slice. -/
def flat (b : OwnedMatrix rows cols α) : Except CopyPanic (Array α) :=
  if ∀ p, ∃ i j, b.layout.place i j = p then .ok b.memory.toArray else .error .gaps

/-- Copies a matrix into the buffer. -/
def load {r c : Nat} (source : MatrixView r c α) (sweep : Sweep rows cols) :
    Mutation (OwnedMatrix rows cols α) CopyPanic Unit :=
  if h : r = rows ∧ c = cols then
    modify fun b => { b with memory := b.layout.copy (source.matrix.cast h) sweep b.memory }
  else throw (.shape (.load (r, c) (rows, cols)))

/-- Copies the buffer into a matrix. -/
def store {r c k : Nat} (b : OwnedMatrix rows cols α) (destination : Destination r c k)
    (sweep : Sweep r c) : Mutation (Vector α k) CopyPanic Unit :=
  if h : rows = r ∧ cols = c then modify (destination.copy (b.view.matrix.cast h) sweep)
  else throw (.shape (.store (r, c) (rows, cols)))

/-- Writes one place of the flat slice. -/
def write (k : Nat) (v : α) : Mutation (OwnedMatrix rows cols α) CopyPanic Unit := do
  let b ← get
  let _ ← liftM b.flat
  if h : k < b.size then set { b with memory := b.memory.set k v }
  else throw (.index k b.size)

/-- If the flat slice is there, only its bound is left to be checked. -/
theorem on_write {b : OwnedMatrix rows cols α} {slice : Array α} (hflat : b.flat = .ok slice)
    (k : Nat) (v : α) :
    (write k v).on b =
      if h : k < b.size then (.ok (), { b with memory := b.memory.set k v })
      else (.error (.index k b.size), b) := by
  have hwrite : (write k v).on b = Mutation.on (do
      let _ ← liftM b.flat
      if h : k < b.size then set { b with memory := b.memory.set k v }
      else throw (.index k b.size)) b := rfl
  rw [hwrite, hflat]
  show Mutation.on (if h : k < b.size then _ else _) b = _
  by_cases hk : k < b.size
  · rw [dif_pos hk, dif_pos hk]
    rfl
  · rw [dif_neg hk, dif_neg hk]
    rfl

/-! ### Other shapes -/

theorem load_of_ne {r c : Nat} (h : ¬(r = rows ∧ c = cols)) (source : MatrixView r c α)
    (sweep : Sweep rows cols) (b : OwnedMatrix rows cols α) :
    (load source sweep).on b = (.error (.shape (.load (r, c) (rows, cols))), b) := by
  rw [load, dif_neg h]
  rfl

theorem store_of_ne {r c k : Nat} (h : ¬(rows = r ∧ cols = c)) (b : OwnedMatrix rows cols α)
    (destination : Destination r c k) (sweep : Sweep r c) (memory : Vector α k) :
    (b.store destination sweep).on memory =
      (.error (.shape (.store (r, c) (rows, cols))), memory) := by
  rw [store, dif_neg h]
  rfl

end OwnedMatrix

/-! ## Runs -/

/-- How buffers of a kind `β` are loaded, stored and written. -/
structure Copying (rows cols : Nat) (α β : Type) where
  load {r c : Nat} : MatrixView r c α → Sweep rows cols → Mutation β CopyPanic Unit
  store {r c k : Nat} : β → Destination r c k → Sweep r c → Mutation (Vector α k) CopyPanic Unit
  write : Nat → α → Mutation β CopyPanic Unit

/-- Buffers with a memory. -/
def OwnedMatrix.copying : Copying rows cols α (OwnedMatrix rows cols α) := ⟨load, store, write⟩

/-- Buffers that are flat vectors. -/
def ColumnMajor.copying : Copying rows cols α (ColumnMajor rows cols α) where
  load source _ := .replace fun b => (b.load source.matrix).mapError .shape
  store b destination sweep := .replace fun memory =>
    ((b.store (destination.read memory)).map (destination.copy · sweep memory)).mapError .shape
  write k v := .replace fun b =>
    if k < rows * cols then .ok (b.write k v) else .error (.index k (rows * cols))

/-- What is done with a buffer. -/
inductive CopyTask (rows cols : Nat) (α : Type) where
  | load {r c : Nat} (source : MatrixView r c α) (sweep : Sweep rows cols)
  | store {r c k : Nat} (destination : Destination r c k) (sweep : Sweep r c)
    (memory : Vector α k)
  | write (k : Nat) (v : α)
  | clone

/-- How a task ends, and the memory that it stores to. -/
structure CopyAnswer (α : Type) where
  ending : Except CopyPanic Unit
  memory : Array α := #[]

namespace Copying

variable {β γ : Type} (o : Copying rows cols α β)

/-- Does a task with buffer `b`, which has number `i`. A clone becomes the last buffer. -/
def perform (b : β) (i : Nat) (task : CopyTask rows cols α) (buffers : List β) :
    CopyAnswer α × List β :=
  match task with
  | .load source sweep =>
    let (ending, b') := (o.load source sweep).on b
    ({ ending }, buffers.set i b')
  | .store destination sweep memory =>
    let (ending, memory') := (o.store b destination sweep).on memory
    ({ ending, memory := memory'.toArray }, buffers)
  | .write k v =>
    let (ending, b') := (o.write k v).on b
    ({ ending }, buffers.set i b')
  | .clone => ({ ending := .ok () }, buffers ++ [b])

/-- Does tasks one after another, each with the buffer that it names. -/
def run (buffers : List β) : List (Nat × CopyTask rows cols α) → List (CopyAnswer α) × List β
  | [] => ([], buffers)
  | (i, task) :: tasks =>
    match buffers[i]? with
    | none => run buffers tasks
    | some b =>
      let (answer, buffers) := o.perform b i task buffers
      let (answers, buffers) := run buffers tasks
      (answer :: answers, buffers)

/-- Buffers of one kind seen as those of another kind, on which everything goes the same. -/
structure Agrees (f : β → γ) (o : Copying rows cols α β) (o' : Copying rows cols α γ) : Prop where
  load {r c : Nat} (source : MatrixView r c α) (sweep : Sweep rows cols) (b : β) :
    (o'.load source sweep).on (f b) = ((o.load source sweep).on b).map id f
  store {r c k : Nat} (b : β) (destination : Destination r c k) (sweep : Sweep r c)
    (memory : Vector α k) :
    (o'.store (f b) destination sweep).on memory = (o.store b destination sweep).on memory
  write (k : Nat) (v : α) (b : β) :
    (o'.write k v).on (f b) = ((o.write k v).on b).map id f

variable {o} {f : β → γ} {o' : Copying rows cols α γ}

theorem perform_map (h : Agrees f o o') (b : β) (i : Nat) (task : CopyTask rows cols α)
    (buffers : List β) :
    o'.perform (f b) i task (buffers.map f) =
      (o.perform b i task buffers).map id (List.map f) := by
  cases task with
  | load source sweep =>
    simp only [perform, h.load, Prod.map, List.map_set, id]
  | store destination sweep memory =>
    simp only [perform, h.store, Prod.map, id]
  | write k v =>
    simp only [perform, h.write, Prod.map, List.map_set, id]
  | clone =>
    simp only [perform, Prod.map, List.map_append, List.map_cons, List.map_nil, id]

/-- **A run goes the same.** -/
theorem run_map (h : Agrees f o o') (buffers : List β) (tasks : List (Nat × CopyTask rows cols α)) :
    o'.run (buffers.map f) tasks = (o.run buffers tasks).map id (List.map f) := by
  induction tasks generalizing buffers with
  | nil => rfl
  | cons head tasks ih =>
    obtain ⟨i, task⟩ := head
    simp only [run, List.getElem?_map]
    cases buffers[i]? with
    | none => exact ih buffers
    | some b =>
      simp only [Option.map_some, perform_map h, Prod.map, ih, id]

end Copying

/-! ## Agreement -/

namespace ColumnMajor

/-- The buffer with its memory. -/
def owned (b : ColumnMajor rows cols α) : OwnedMatrix rows cols α :=
  ⟨b.flat, .columns rows cols (Nat.le_refl _)⟩

variable (b : ColumnMajor rows cols α)

theorem place_owned (i : Fin rows) (j : Fin cols) : b.owned.layout.place i j = place i j :=
  Strides.place_columns (Nat.le_refl _) i j

/-- Every place of the memory has an entry. -/
theorem exists_place_owned (p : Fin (rows * cols)) : ∃ i j, b.owned.layout.place i j = p :=
  ⟨rowOf p, colOf p, (b.place_owned ..).trans (place_rowOf_colOf p)⟩

/-- **The flat slice is always there.** -/
theorem flat_owned : b.owned.flat = .ok b.flat.toArray := if_pos b.exists_place_owned

theorem view_owned : b.owned.view.matrix = b.toMatrix := by
  ext i j
  show (b.owned.layout.read b.owned.memory).get i j = (Matrix.ofFn b.get).get i j
  rw [Strides.get_read, Matrix.get_ofFn]
  exact congrArg (fun p : Fin (rows * cols) => b.flat[p]) (b.place_owned i j)

/-- Copying a matrix in replaces the whole memory. -/
theorem copy_owned (m : Matrix rows cols α) (sweep : Sweep rows cols) :
    b.owned.layout.copy m sweep b.owned.memory = (ofMatrix m).flat := by
  refine Destination.copy_eq_iff.mpr
    ⟨((ofMatrix m).view_owned).trans (toMatrix_ofMatrix m), fun p hp => ?_⟩
  have hle : rows * cols ≤ p := Nat.le_of_not_lt fun hlt => by
    obtain ⟨i, j, hplace⟩ := b.exists_place_owned ⟨p, hlt⟩
    exact hp i j (congrArg (fun q : Fin (rows * cols) => q.val) hplace)
  exact (Vector.getElem?_eq_none hle).trans (Vector.getElem?_eq_none hle).symm

theorem load_owned (source : MatrixView rows cols α) (sweep : Sweep rows cols) :
    (OwnedMatrix.load source sweep).on b.owned = (.ok (), (ofMatrix source.matrix).owned) := by
  rw [OwnedMatrix.load, dif_pos ⟨rfl, rfl⟩]
  show (Except.ok (), OwnedMatrix.mk (b.owned.layout.copy _ _ b.owned.memory) _) = _
  rw [copy_owned]
  rfl

theorem store_owned {k : Nat} (destination : Destination rows cols k) (sweep : Sweep rows cols)
    (memory : Vector α k) :
    (b.owned.store destination sweep).on memory =
      (.ok (), destination.copy b.toMatrix sweep memory) := by
  rw [OwnedMatrix.store, dif_pos ⟨rfl, rfl⟩]
  show (Except.ok (), destination.copy b.owned.view.matrix sweep memory) = _
  rw [view_owned]

/-- **Buffers with their memory do what flat vectors do.** -/
theorem owned_agrees :
    Copying.Agrees (@owned rows cols α) copying OwnedMatrix.copying where
  load {r c} source sweep b := by
    show (OwnedMatrix.load source sweep).on b.owned =
      (Mutation.replacing ((b.load source.matrix).mapError .shape) b).map id owned
    by_cases h : r = rows ∧ c = cols
    · obtain ⟨rfl, rfl⟩ := h
      rw [load_owned, load_same]
      rfl
    · rw [OwnedMatrix.load_of_ne h, load, dif_neg h]
      rfl
  store {r c k} b destination sweep memory := by
    show (b.owned.store destination sweep).on memory = Mutation.replacing
      (((b.store (destination.read memory)).map (destination.copy · sweep memory)).mapError
        .shape) memory
    by_cases h : r = rows ∧ c = cols
    · obtain ⟨rfl, rfl⟩ := h
      rw [store_owned, store_same]
      rfl
    · have hne : ¬(rows = r ∧ cols = c) := fun hs => h (hs.imp Eq.symm Eq.symm)
      rw [OwnedMatrix.store_of_ne hne, store, dif_neg h]
      rfl
  write k v b := by
    show (OwnedMatrix.write k v).on b.owned =
      (Mutation.replacing (if k < rows * cols then .ok (b.write k v)
        else .error (.index k (rows * cols))) b).map id owned
    rw [OwnedMatrix.on_write b.flat_owned]
    by_cases h : k < rows * cols
    · have hset : b.write k v = ⟨b.flat.set k v⟩ := by
        simp [ColumnMajor.write, Vector.setIfInBounds, Vector.set, Array.setIfInBounds, h]
      rw [if_pos h, hset]
      exact dif_pos h
    · rw [if_neg h]
      exact dif_neg h

/-! ## The main result -/

/-- A run on a new buffer, with its memory and as a flat vector. -/
theorem run_owned (v : α) (tasks : List (Nat × CopyTask rows cols α)) :
    OwnedMatrix.copying.run [OwnedMatrix.fill rows cols v] tasks =
      (copying.run [fill rows cols v] tasks).map id (List.map owned) :=
  Copying.run_map owned_agrees [fill rows cols v] tasks

/-- **Copies are exact after any run**, whatever the entries are. Let tasks be done with a new buffer,
filled with `v`, and its clones: matrices with any steps are copied in, the buffer is copied out, places
of its flat slice are written, and clones are made. Then all of it goes as with flat vectors, and for
each buffer that there is:

* it hands out a flat slice of `rows * cols` entries, and entry `j * rows + i` of it is the entry in
  row `i` and column `j`;
* loading a matrix and storing it gives the matrix, wherever it is stored to;
* storing it and loading that into this or another buffer gives its flat slice;
* loading or storing a matrix of another shape panics, and leaves the buffer and the memory of the
  matrix as they were. -/
theorem exact_copies (v : α) (tasks : List (Nat × CopyTask rows cols α)) :
    OwnedMatrix.copying.run [OwnedMatrix.fill rows cols v] tasks =
      (copying.run [fill rows cols v] tasks).map id (List.map owned) ∧
    ∀ b ∈ (OwnedMatrix.copying.run [OwnedMatrix.fill rows cols v] tasks).2,
      (∃ slice, b.flat = .ok slice ∧ slice.size = rows * cols ∧
        ∀ i j, slice[j.val * rows + i.val]? = some (b.view.matrix.get i j)) ∧
      (∀ (k : Nat) (source : MatrixView rows cols α) (destination : Destination rows cols k)
          (sweep sweep' : Sweep rows cols) (memory : Vector α k),
        ∃ loaded stored, (OwnedMatrix.load source sweep).on b = (.ok (), loaded) ∧
          (loaded.store destination sweep').on memory = (.ok (), stored) ∧
          destination.read stored = source.matrix) ∧
      (∀ v' tasks', ∀ b' ∈ (OwnedMatrix.copying.run [OwnedMatrix.fill rows cols v'] tasks').2,
        ∀ (k : Nat) (destination : Destination rows cols k) (sweep sweep' : Sweep rows cols)
          (memory : Vector α k),
        ∃ stored loaded, (b.store destination sweep).on memory = (.ok (), stored) ∧
          (OwnedMatrix.load (destination.view stored) sweep').on b' = (.ok (), loaded) ∧
          loaded.flat = b.flat) ∧
      ∀ r c, (r, c) ≠ (rows, cols) →
        (∀ (source : MatrixView r c α) (sweep : Sweep rows cols),
          (OwnedMatrix.load source sweep).on b =
            (.error (.shape (.load (r, c) (rows, cols))), b)) ∧
        ∀ (k : Nat) (destination : Destination r c k) (sweep : Sweep r c) (memory : Vector α k),
          (b.store destination sweep).on memory =
            (.error (.shape (.store (r, c) (rows, cols))), memory) := by
  have owned_of_mem {v : α} {tasks : List (Nat × CopyTask rows cols α)} {b : OwnedMatrix rows cols α}
      (hb : b ∈ (OwnedMatrix.copying.run [OwnedMatrix.fill rows cols v] tasks).2) :
      ∃ flat : ColumnMajor rows cols α, flat.owned = b := by
    rw [run_owned] at hb
    obtain ⟨flat, -, hflat⟩ := List.mem_map.mp hb
    exact ⟨flat, hflat⟩
  refine ⟨run_owned v tasks, fun b hb => ?_⟩
  obtain ⟨b, rfl⟩ := owned_of_mem hb
  refine ⟨⟨_, b.flat_owned, b.flat.size_toArray, fun i j => ?_⟩,
    fun k source destination sweep sweep' memory => ?_,
    fun v' tasks' b' hb' k destination sweep sweep' memory => ?_, fun r c hne => ?_⟩
  · have hlt : j.val * rows + i.val < b.flat.toArray.size :=
      Nat.lt_of_lt_of_eq (place i j).isLt b.flat.size_toArray.symm
    rw [view_owned, toMatrix, Matrix.get_ofFn, Array.getElem?_eq_getElem hlt]
    rfl
  · refine ⟨_, _, b.load_owned source sweep, store_owned _ destination sweep' memory, ?_⟩
    rw [Destination.read_copy, toMatrix_ofMatrix]
  · obtain ⟨b', rfl⟩ := owned_of_mem hb'
    have hstored : (destination.view (destination.copy b.toMatrix sweep memory)).matrix =
        b.toMatrix := destination.read_copy b.toMatrix sweep memory
    refine ⟨_, _, b.store_owned destination sweep memory, b'.load_owned _ sweep', ?_⟩
    rw [hstored, ofMatrix_toMatrix]
  · have hload : ¬(r = rows ∧ c = cols) := fun h => hne (by rw [h.1, h.2])
    have hstore : ¬(rows = r ∧ cols = c) := fun h => hne (by rw [h.1, h.2])
    exact ⟨fun source sweep => OwnedMatrix.load_of_ne hload source sweep _,
      fun k destination sweep memory => OwnedMatrix.store_of_ne hstore _ destination sweep memory⟩

/-- A transposed matrix is loaded, the buffer cloned, and one place of the clone written. Storing the
clone and loading that into the first buffer gives the slice of the clone. The matrix before it is
transposed has another shape. -/
theorem exact_copies_cloned :
    let source : MatrixView 3 2 Float := ⟨#v[0.5, 1.5, 2.5, 10.5, 11.5, 12.5], .columns 3 2 (by decide)⟩
    let tasks : List (Nat × CopyTask 2 3 Float) :=
      [(0, .load source.transpose (.byRows 2 3)), (0, .clone), (1, .write 4 7.0)]
    let first : OwnedMatrix 2 3 Float := owned ⟨#v[0.5, 10.5, 1.5, 11.5, 2.5, 12.5]⟩
    let clone : OwnedMatrix 2 3 Float := owned ⟨#v[0.5, 10.5, 1.5, 11.5, 7.0, 12.5]⟩
    let destination : Destination 2 3 6 := .columns 2 3 (Nat.le_refl 6)
    (OwnedMatrix.copying.run [OwnedMatrix.zeros 2 3] tasks).2 = [first, clone] ∧
    (∃ stored loaded,
      (clone.store destination (.byRows 2 3)).on (Vector.replicate 6 0.0) = (.ok (), stored) ∧
      (OwnedMatrix.load (destination.view stored) (.byRows 2 3)).on first = (.ok (), loaded) ∧
      loaded.flat = clone.flat) ∧
    (OwnedMatrix.load source (.byRows 2 3)).on first =
      (.error (.shape (.load (3, 2) (2, 3))), first) := by
  intro source tasks first clone destination
  obtain ⟨hrun, hbuffers⟩ := exact_copies 0.0 tasks
  have hleft : (OwnedMatrix.copying.run [OwnedMatrix.zeros 2 3] tasks).2 = [first, clone] :=
    (congrArg Prod.snd hrun).trans rfl
  have hfirst : first ∈ (OwnedMatrix.copying.run [OwnedMatrix.zeros 2 3] tasks).2 := by
    rw [hleft]
    exact List.mem_cons_self
  have hclone : clone ∈ (OwnedMatrix.copying.run [OwnedMatrix.zeros 2 3] tasks).2 := by
    rw [hleft]
    exact List.mem_cons_of_mem _ List.mem_cons_self
  obtain ⟨-, -, hagain, -⟩ := hbuffers clone hclone
  obtain ⟨-, -, -, hother⟩ := hbuffers first hfirst
  exact ⟨hleft, hagain 0.0 tasks first hfirst 6 destination _ _ _, (hother 3 2 (by decide)).1 source _⟩

end ColumnMajor

end NonlinearFit
