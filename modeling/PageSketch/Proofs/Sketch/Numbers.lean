import PageSketch.Proofs.Json.Respelling
import PageSketch.Proofs.Sketch.Sorting
import PageSketch.Proofs.Sketch.Writing

/-!
# Sketches with other numbers

Replacing the numbers in the props and among the children of a sketch, but not its widths, replaces
those in its JSON form and keeps it sorted.
-/

namespace PageSketch

open Json

mutual

/-- The component with other numbers in its props and among its children. -/
def Component.mapNumbers (f : Number → Number) : Component → Component
  | ⟨name, props, span, children⟩ =>
    ⟨name, Value.respellMembers id f props, span, Child.mapAllNumbers f children⟩

/-- The child with other numbers. -/
def Child.mapNumbers (f : Number → Number) : Child → Child
  | .component c => .component (c.mapNumbers f)
  | .text s => .text s
  | .number n => .number (f n)
  | .bool b => .bool b

/-- `mapNumbers` on every child. -/
def Child.mapAllNumbers (f : Number → Number) : List Child → List Child
  | [] => []
  | child :: rest => child.mapNumbers f :: Child.mapAllNumbers f rest

end

/-- The sketch with other numbers in its components. -/
def Sketch.mapNumbers (f : Number → Number) (sketch : Sketch) : Sketch :=
  { sketch with components := sketch.components.map (Component.mapNumbers f) }

variable {f : Number → Number}

/-! ## JSON forms -/

/-- The JSON form of a component whose children have the replaced numbers in theirs. -/
theorem Component.toValue_mapNumbers_of_children (hf : ∀ n, f (.ofInt64 n) = .ofInt64 n)
    {c : Component} (hchildren : Child.toValues (Child.mapAllNumbers f c.children) =
      Value.respellItems id f (Child.toValues c.children)) :
    (c.mapNumbers f).toValue = c.toValue.respell id f := by
  obtain ⟨name, props, span, children⟩ := c
  rw [toValue_eq_object, toValue_eq_object, Value.respell, mapNumbers, Value.object.injEq]
  -- Each of the three parts can be left out.
  cases props <;> cases span <;> cases children <;>
    simp_all [members, Value.respellMembers, Value.respell, Child.mapAllNumbers]

mutual

/-- The JSON form of a component has the replaced numbers, if the replacement keeps widths. -/
theorem Component.toValue_mapNumbers (hf : ∀ n, f (.ofInt64 n) = .ofInt64 n) (c : Component) :
    (c.mapNumbers f).toValue = c.toValue.respell id f := by
  match c with
  | ⟨name, props, span, children⟩ =>
    exact Component.toValue_mapNumbers_of_children hf (Child.toValues_mapAllNumbers hf children)

/-- The JSON form of a child has the replaced numbers. -/
theorem Child.toValue_mapNumbers (hf : ∀ n, f (.ofInt64 n) = .ofInt64 n) (child : Child) :
    (child.mapNumbers f).toValue = child.toValue.respell id f := by
  match child with
  | .component c => exact Component.toValue_mapNumbers hf c
  | .text _ | .number _ | .bool _ => rfl

/-- The JSON forms of children have the replaced numbers. -/
theorem Child.toValues_mapAllNumbers (hf : ∀ n, f (.ofInt64 n) = .ofInt64 n)
    (children : List Child) : Child.toValues (Child.mapAllNumbers f children) =
      Value.respellItems id f (Child.toValues children) := by
  match children with
  | [] => rfl
  | child :: rest =>
    rw [Child.mapAllNumbers, Child.toValues, Child.toValues, Value.respellItems,
      Child.toValue_mapNumbers hf child, Child.toValues_mapAllNumbers hf rest]

end

/-- The JSON form of a sketch has the replaced numbers, if the replacement keeps widths. -/
theorem Sketch.toValue_mapNumbers (hf : ∀ n, f (.ofInt64 n) = .ofInt64 n) (sketch : Sketch) :
    (sketch.mapNumbers f).toValue = sketch.toValue.respell id f := by
  have hcomponents : (sketch.components.map (Component.mapNumbers f)).map Component.toValue =
      Value.respellItems id f (sketch.components.map Component.toValue) := by
    rw [Value.respellItems_eq_map, List.map_map, List.map_map]
    exact List.map_congr_left fun c _ => Component.toValue_mapNumbers hf c
  simp [toValue, mapNumbers, hcomponents, Value.respell, Value.respellMembers, Header.toValue]

/-! ## Sorted sketches -/

mutual

/-- A sorted component with other numbers is sorted. -/
theorem Component.sorted_mapNumbers (c : Component) (h : c.sorted = c) :
    (c.mapNumbers f).sorted = c.mapNumbers f := by
  match c with
  | ⟨name, props, span, children⟩ =>
    obtain ⟨hprops, hchildren⟩ := Component.sorted_parts h
    have hreplaced := (hprops.respell f).sorted_eq
    rw [Value.respell, Value.sorted, Value.object.injEq] at hreplaced
    rw [Component.mapNumbers, Component.sorted, hreplaced,
      Child.sortedAll_mapAllNumbers children hchildren]

/-- A sorted child with other numbers is sorted. -/
theorem Child.sorted_mapNumbers (child : Child) (h : child.sorted = child) :
    (child.mapNumbers f).sorted = child.mapNumbers f := by
  match child with
  | .component c =>
    rw [Child.sorted, Child.component.injEq] at h
    rw [Child.mapNumbers, Child.sorted, Component.sorted_mapNumbers c h]
  | .text _ | .number _ | .bool _ => rfl

/-- Sorted children with other numbers are sorted. -/
theorem Child.sortedAll_mapAllNumbers (children : List Child)
    (h : Child.sortedAll children = children) :
    Child.sortedAll (Child.mapAllNumbers f children) = Child.mapAllNumbers f children := by
  match children with
  | [] => rfl
  | child :: rest =>
    rw [Child.sortedAll, List.cons.injEq] at h
    rw [Child.mapAllNumbers, Child.sortedAll, Child.sorted_mapNumbers child h.1,
      Child.sortedAll_mapAllNumbers rest h.2]

end

/-- A sorted sketch with other numbers is sorted. -/
theorem Sketch.sorted_mapNumbers {sketch : Sketch} (h : sketch.sorted = sketch) :
    (sketch.mapNumbers f).sorted = sketch.mapNumbers f := by
  rw [sorted, mapNumbers, Sketch.mk.injEq, List.map_map]
  refine ⟨rfl, List.map_congr_left fun c hc => ?_⟩
  exact Component.sorted_mapNumbers c (sorted_components h c hc)

end PageSketch
