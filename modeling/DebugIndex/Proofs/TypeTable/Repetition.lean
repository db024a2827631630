import Mathlib.Data.List.Induction
import DebugIndex.Proofs.TypeTable.Pointers

/-!
# Resolving again

A variable can be resolved more than once, with other references in between.  Each time its
display name, its capabilities and its members are made anew, so nothing of what it was before
shows in them.  Its size and its encoding are not: they are those that the entries of the new
chain settle, and where these settle nothing, those of the latest earlier chain that did.
Whether a chain settles them depends on the tags of its entries.  As long as a variable keeps
its reference, to resolve it again changes nothing.
-/

namespace DebugIndex

namespace Variable

/-- A variable as it was declared, before anything is known about its type. -/
def fresh (item : Variable) : Variable where
  name := item.name
  typeOffset := item.typeOffset
  opcode := item.opcode
  address := item.address
  offset := item.offset

def referringTo (item : Variable) (reference : Int) : Variable :=
  { item with typeOffset := reference }

@[simp]
theorem fresh_referringTo (item : Variable) (reference : Int) :
    (item.referringTo reference).fresh = item.fresh.referringTo reference := rfl

end Variable

/-- A resolution that comes to another size and encoding, and to nothing else. -/
def Resolution.resized (resolution : Resolution) (byteSize encoding : Int) : Resolution :=
  { resolution with
    item := { resolution.item with byteSize := byteSize, encoding := encoding } }

namespace Resolution

/-! ## What entries settle -/

/-- The size that an entry gives a variable.  Pointers and enumerations always give theirs, a
base type unless it is behind a pointer. -/
def givenSize? (behindPointer : Bool) (entry : TypeEntry) : Option Int :=
  match entry.tag with
  | .pointerType | .enumerationType => some entry.byteSize
  | .baseType => if behindPointer then none else some entry.byteSize
  | _ => none

/-- The encoding that an entry gives a variable.  An enumeration gives one if it has one or if
its size calls for one. -/
def givenEncoding? (behindPointer : Bool) (entry : TypeEntry) : Option Int :=
  match entry.tag with
  | .pointerType => some pointerEncoding
  | .enumerationType =>
      if entry.encoding ≠ 0 then some entry.encoding
      else if entry.byteSize = 4 then some signedEncoding
      else none
  | .baseType => if behindPointer then none else some entry.encoding
  | _ => none

/-- What is given by the last of some entries that gives anything. -/
def settled? (given? : Bool → TypeEntry → Option Int) :
    (behindPointer : Bool) → List TypeEntry → Option Int
  | _, [] => none
  | behindPointer, entry :: rest =>
      (settled? given? (behindPointer || entry.tag = .pointerType) rest).or
        (given? behindPointer entry)

/-- The size that the chain of a reference settles, as far as it is walked. -/
def sizeOf? (table : TypeTable) (limits : Limits) (reference : Int) : Option Int :=
  settled? givenSize? false (table.firstEntries limits.steps.toNat reference)

/-- The encoding that the chain of a reference settles, as far as it is walked. -/
def encodingOf? (table : TypeTable) (limits : Limits) (reference : Int) : Option Int :=
  settled? givenEncoding? false (table.firstEntries limits.steps.toNat reference)

/-! ## Gathering with another size and encoding -/

namespace Progress

/-- What is gathered, but with another size and encoding. -/
def resized (progress : Progress) (byteSize encoding : Int) : Progress :=
  { progress with byteSize := byteSize, encoding := encoding }

section Resizing

variable (progress : Progress) (byteSize encoding : Int)

@[simp]
theorem resized_mark (capability : Capability) :
    (progress.resized byteSize encoding).mark capability =
      (progress.mark capability).resized byteSize encoding := rfl

@[simp]
theorem resized_write (text : String) :
    (progress.resized byteSize encoding).write text =
      (progress.write text).resized byteSize encoding := rfl

@[simp]
theorem resized_writeIf (condition : Bool) (text : String) :
    (progress.resized byteSize encoding).writeIf condition text =
      (progress.writeIf condition text).resized byteSize encoding := by
  cases condition <;> rfl

@[simp]
theorem resized_writeName (entry : TypeEntry) :
    (progress.resized byteSize encoding).writeName entry =
      (progress.writeName entry).resized byteSize encoding :=
  progress.resized_writeIf byteSize encoding _ _

@[simp]
theorem has_resized (capability : Capability) :
    (progress.resized byteSize encoding).has capability = progress.has capability := rfl

end Resizing

@[simp]
theorem has_writeIf (progress : Progress) (condition : Bool) (text : String)
    (capability : Capability) :
    (progress.writeIf condition text).has capability = progress.has capability := by
  simp [has]

@[simp]
theorem has_writeName (progress : Progress) (entry : TypeEntry) (capability : Capability) :
    (progress.writeName entry).has capability = progress.has capability :=
  progress.has_writeIf _ _ capability

end Progress

/-- A walk that gathers another size and encoding, and else the same. -/
def Walk.resized (walked : Walk) (byteSize encoding : Int) : Walk :=
  { walked with progress := walked.progress.resized byteSize encoding }

theorem has_pointer_gather {progress : Progress} (consistent : progress.Consistent)
    (entry : TypeEntry) :
    (gather progress entry).has .pointer =
      (progress.has .pointer || decide (entry.tag = .pointerType)) := by
  have own : Capability.pointer.isIn entry.capabilityMask = decide (entry.tag = .pointerType) := by
    rw [TypeEntry.capabilityMask, TypeEntry.capability?]
    cases entry.tag with
    | other name => simp [Capability.isIn]
    | _ => rfl
  rw [Progress.has, gather, capabilities_visit consistent, Capability.isIn_or, own, Progress.has]

/-- A size and an encoding from before stay where an entry gives none, and show in nothing
else. -/
theorem gather_resized (progress : Progress) (byteSize encoding : Int) (entry : TypeEntry) :
    gather (progress.resized byteSize encoding) entry =
      (gather progress entry).resized
        ((givenSize? (progress.has .pointer) entry).getD byteSize)
        ((givenEncoding? (progress.has .pointer) entry).getD encoding) := by
  cases tag : entry.tag with
  | structureType | unionType =>
      simp only [gather, visit, visit.aggregate, givenSize?, givenEncoding?, tag]
      split <;> simp
  | pointerType =>
      simp only [gather, visit, givenSize?, givenEncoding?, tag]
      split <;> rfl
  | enumerationType =>
      simp only [gather, visit, givenSize?, givenEncoding?, tag]
      split
      · rfl
      · split <;> rfl
  | typedef =>
      simp only [gather, visit, givenSize?, givenEncoding?, tag, Option.getD_none]
      split
      case isTrue inside => rw [if_pos (show progress.insideTypedef = true from inside)]
      case isFalse outside =>
        rw [if_neg (show ¬ progress.insideTypedef = true from outside)]
        simp only [Progress.resized_mark, Progress.resized_writeName]
        rfl
  | baseType =>
      simp only [gather, visit, givenSize?, givenEncoding?, tag, Progress.resized_writeName,
        Progress.has_resized, Progress.has_writeName]
      cases progress.has .pointer with
      | true =>
          simp
      | false =>
          simp only [Bool.false_eq_true, if_false, Option.getD_some]
          exact Progress.resized_writeIf
            ((progress.writeName entry).resized entry.byteSize entry.encoding) _ _ _ _
  | _ =>
      simp [gather, visit, givenSize?, givenEncoding?, tag]

theorem foldl_gather_resized {progress : Progress} (consistent : progress.Consistent)
    (byteSize encoding : Int) (entries : List TypeEntry) :
    entries.foldl gather (progress.resized byteSize encoding) =
      (entries.foldl gather progress).resized
        ((settled? givenSize? (progress.has .pointer) entries).getD byteSize)
        ((settled? givenEncoding? (progress.has .pointer) entries).getD encoding) := by
  induction entries generalizing progress byteSize encoding with
  | nil => rfl
  | cons entry rest ih =>
      have onward : (gather progress entry).Consistent := consistent_visit consistent entry
      rw [List.foldl_cons, gather_resized, ih onward, has_pointer_gather consistent,
        List.foldl_cons, settled?, settled?, Option.getD_or, Option.getD_or]

/-! ## Resolving a variable that is not fresh -/

section Again

variable (table : TypeTable) (limits : Limits) (depth : Int) (item : Variable)

theorem ending_walk_eq (remaining : Nat) (reference : Int) (progress other : Progress) :
    (walk table remaining reference progress).ending =
      (walk table remaining reference other).ending := by
  induction remaining generalizing reference progress other with
  | zero => rw [walk_zero, walk_zero]
  | succ remaining ih =>
      cases found : table.target? reference with
      | none => rw [walk_of_none found, walk_of_none found]
      | some entry =>
          rw [walk_of_some found, walk_of_some found, Walk.behind, Walk.behind]
          simp only
          rw [ih entry.outgoing (visit entry progress).1 (visit entry other).1]

/-- The walk of a variable that is not fresh only differs in the size and the encoding that it
gathers. -/
theorem walkOf_eq_fresh :
    walkOf table limits item =
      (walkOf table limits item.fresh).resized
        ((sizeOf? table limits item.typeOffset).getD item.byteSize)
        ((encodingOf? table limits item.typeOffset).getD item.encoding) := by
  have outside : Progress.Consistent {} := fun inside => by cases inside
  have progress : (walkOf table limits item).progress =
      (walkOf table limits item.fresh).progress.resized
        ((sizeOf? table limits item.typeOffset).getD item.byteSize)
        ((encodingOf? table limits item.typeOffset).getD item.encoding) := by
    simp only [walkOf, progress_walk]
    exact foldl_gather_resized outside item.byteSize item.encoding _
  have steps : (walkOf table limits item).steps = (walkOf table limits item.fresh).steps := by
    simp only [walkOf, steps_walk]
    rfl
  have ending : (walkOf table limits item).ending = (walkOf table limits item.fresh).ending :=
    ending_walk_eq table _ _ _ _
  calc
    walkOf table limits item =
        ⟨(walkOf table limits item).progress, (walkOf table limits item).steps,
          (walkOf table limits item).ending⟩ := rfl
    _ = _ := by
      rw [progress, steps, ending]
      rfl

/-- A variable resolves to what it would resolve to if it were fresh, but for a size or an
encoding from before that the chain does not settle. -/
theorem resolve_eq_fresh :
    resolve table limits depth item =
      (resolve table limits depth item.fresh).resized
        ((sizeOf? table limits item.typeOffset).getD item.byteSize)
        ((encodingOf? table limits item.typeOffset).getD item.encoding) := by
  have expansion : expanded? table limits depth item = expanded? table limits depth item.fresh := by
    simp only [expanded?]
    rw [walkOf_eq_fresh]
    rfl
  have members : memberResolutions table limits depth item =
      memberResolutions table limits depth item.fresh := by
    simp only [memberResolutions, expansion]
    rfl
  have noticed : ownNotices table limits depth item = ownNotices table limits depth item.fresh := by
    simp only [ownNotices]
    rw [walkOf_eq_fresh]
    rfl
  rw [resolve_eq, resolve_eq, members, noticed, walkOf_eq_fresh]
  rfl

end Again

/-! ## One resolution after the other -/

theorem fresh_resolve (table : TypeTable) (limits : Limits) (depth : Int) (item : Variable) :
    (resolve table limits depth item).item.fresh = item.fresh := by
  obtain ⟨name, typeOffset, opcode, address, offset⟩ := declared_resolve table limits depth item
  rw [Variable.fresh, name, typeOffset, opcode, address, offset, Variable.fresh]

/-- What is asked for when a variable is resolved: the reference that it is given before, and
the depth. -/
structure Request where
  reference : Int
  depth : Int := 0

def resolveAs (table : TypeTable) (limits : Limits) (item : Variable) (request : Request) :
    Resolution :=
  resolve table limits request.depth (item.referringTo request.reference)

/-- A variable that has been resolved again and again. -/
def resolvedEach (table : TypeTable) (limits : Limits) (item : Variable)
    (history : List Request) : Variable :=
  history.foldl (fun former request => (resolveAs table limits former request).item) item

/-- What the chain of the latest request settles whose chain settles anything. -/
def latest? (settledBy? : Int → Option Int) (history : List Request) : Option Int :=
  history.reverse.findSome? fun request => settledBy? request.reference

theorem latest?_append_singleton (settledBy? : Int → Option Int) (history : List Request)
    (request : Request) :
    latest? settledBy? (history ++ [request]) =
      (settledBy? request.reference).or (latest? settledBy? history) := by
  rw [latest?, List.reverse_append, List.reverse_singleton, List.singleton_append,
    List.findSome?_cons]
  cases settledBy? request.reference <;> rfl

/-- As long as the reference stays the same, the latest chain is as good as any. -/
theorem latest?_of_same (settledBy? : Int → Option Int) {history : List Request} {reference : Int}
    (same : ∀ request ∈ history, request.reference = reference) :
    (settledBy? reference).or (latest? settledBy? history) = settledBy? reference := by
  cases settled : settledBy? reference with
  | some number => rfl
  | none =>
      rw [Option.none_or, latest?, List.findSome?_eq_none_iff]
      intro request listed
      rw [same request (List.mem_reverse.mp listed), settled]

section Histories

variable (table : TypeTable) (limits : Limits) (item : Variable)

theorem resolvedEach_append_singleton (history : List Request) (request : Request) :
    resolvedEach table limits item (history ++ [request]) =
      (resolveAs table limits (resolvedEach table limits item history) request).item := by
  rw [resolvedEach, List.foldl_append]
  rfl

theorem resolveAs_eq_fresh (request : Request) :
    resolveAs table limits item request =
      (resolveAs table limits item.fresh request).resized
        ((sizeOf? table limits request.reference).getD item.byteSize)
        ((encodingOf? table limits request.reference).getD item.encoding) :=
  resolve_eq_fresh table limits request.depth (item.referringTo request.reference)

/-- Whatever happened to a variable, it was declared with what it was declared with, and has the
size and the encoding that were settled last. -/
theorem resolvedEach_facts (history : List Request) (reference : Int) :
    ((resolvedEach table limits item history).referringTo reference).fresh =
        (item.referringTo reference).fresh ∧
      (resolvedEach table limits item history).byteSize =
          (latest? (sizeOf? table limits) history).getD item.byteSize ∧
        (resolvedEach table limits item history).encoding =
          (latest? (encodingOf? table limits) history).getD item.encoding := by
  induction history using List.reverseRecOn with
  | nil => exact ⟨rfl, rfl, rfl⟩
  | append_singleton history request ih =>
      obtain ⟨declared, byteSize, encoding⟩ := ih
      rw [resolvedEach_append_singleton, latest?_append_singleton, latest?_append_singleton,
        Option.getD_or, Option.getD_or, ← byteSize, ← encoding]
      refine ⟨?_, ?_, ?_⟩
      · rw [← declared, Variable.fresh_referringTo, resolveAs, fresh_resolve,
          ← Variable.fresh_referringTo]
        rfl
      · rw [resolveAs_eq_fresh]
        rfl
      · rw [resolveAs_eq_fresh]
        rfl

end Histories

/-- Whatever a variable has been resolved to before, it is resolved as if it were fresh, but for
the size and the encoding.  These are those that are settled by the chain of the request or,
if that settles none, by that of the latest earlier request that does; and if there is none,
they stay what they were, where a fresh variable has zero.  So a variable that keeps its
reference is resolved again as if it were fresh. -/
theorem resolveAs_resolvedEach (table : TypeTable) (limits : Limits) (item : Variable)
    (history : List Request) (request : Request) :
    resolveAs table limits (resolvedEach table limits item history) request =
        (resolveAs table limits item.fresh request).resized
          ((latest? (sizeOf? table limits) (history ++ [request])).getD item.byteSize)
          ((latest? (encodingOf? table limits) (history ++ [request])).getD item.encoding) ∧
      (resolveAs table limits item.fresh request).item.byteSize =
          (sizeOf? table limits request.reference).getD 0 ∧
        (resolveAs table limits item.fresh request).item.encoding =
            (encodingOf? table limits request.reference).getD 0 ∧
          ((∀ former ∈ history, former.reference = request.reference) →
            resolveAs table limits (resolvedEach table limits item.fresh history) request =
              resolveAs table limits item.fresh request) := by
  have again (start : Variable) :
      resolveAs table limits (resolvedEach table limits start history) request =
        (resolveAs table limits start.fresh request).resized
          ((latest? (sizeOf? table limits) (history ++ [request])).getD start.byteSize)
          ((latest? (encodingOf? table limits) (history ++ [request])).getD start.encoding) := by
    obtain ⟨declared, byteSize, encoding⟩ :=
      resolvedEach_facts table limits start history request.reference
    rw [resolveAs, resolve_eq_fresh, declared, latest?_append_singleton,
      latest?_append_singleton, Option.getD_or, Option.getD_or, ← byteSize, ← encoding]
    rfl
  have afresh := resolveAs_eq_fresh table limits item.fresh request
  refine ⟨again item, congrArg (fun resolution => resolution.item.byteSize) afresh,
    congrArg (fun resolution => resolution.item.encoding) afresh, ?_⟩
  intro same
  rw [again item.fresh, latest?_append_singleton, latest?_append_singleton,
    latest?_of_same _ same, latest?_of_same _ same]
  exact afresh.symm

/-- A number, a struct of two numbers and a pointer to the struct. -/
def pointTable : TypeTable where
  entries :=
    [{ tag := .baseType, offset := 16, byteSize := 4, encoding := 5, name := some "int" },
      { tag := .structureType, offset := 24, byteSize := 8, name := some "point"
        members :=
          [{ name := some "x", typeOffset := 16 },
            { name := some "y", typeOffset := 16, location := 4 }] },
      { tag := .pointerType, offset := 32, typeOffset := 24, byteSize := 2 }]

/-- A struct settles no size, so a variable that was a number before keeps the size and the
encoding of the number, which a fresh one does not get. -/
theorem resolveAs_retyped :
    let former := resolvedEach pointTable {} { name := "origin" } [⟨16, 0⟩]
    let again := (resolveAs pointTable {} former ⟨24, 0⟩).item
    let afresh := (resolveAs pointTable {} former.fresh ⟨24, 0⟩).item
    (again.byteSize = 4 ∧ again.encoding = 5) ∧ afresh.byteSize = 0 ∧ afresh.encoding = 0 := by
  decide +kernel

/-- A variable that stays a pointer to the struct is resolved again as if it were fresh, and one
that was a number before takes the size of the pointer. -/
theorem resolveAs_resolvedEach_pointTable :
    resolveAs pointTable {} (resolvedEach pointTable {} { name := "origin" } [⟨32, 0⟩, ⟨32, 1⟩])
        ⟨32, 2⟩ = resolveAs pointTable {} { name := "origin" } ⟨32, 2⟩ ∧
      resolveAs pointTable {} (resolvedEach pointTable {} { name := "origin" } [⟨16, 0⟩]) ⟨32, 0⟩ =
        (resolveAs pointTable {} { name := "origin" } ⟨32, 0⟩).resized 2 pointerEncoding := by
  have unchanged := (resolveAs_resolvedEach pointTable {} { name := "origin" }
    [⟨32, 0⟩, ⟨32, 1⟩] ⟨32, 2⟩).2.2.2 (by decide)
  have changed := (resolveAs_resolvedEach pointTable {} { name := "origin" } [⟨16, 0⟩] ⟨32, 0⟩).1
  exact ⟨unchanged, changed⟩

end Resolution
end DebugIndex
