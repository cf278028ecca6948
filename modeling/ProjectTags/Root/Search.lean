import ProjectTags.Path.Basic

/-!
# The search for a project root

A directory that holds one of certain markers, such as the directory of a version control system,
is a project root. The root of a place is the nearest such directory at or above it. The search
asks for one path after the other and stops at the first that exists; an answer that comes out of
it is kept together with the paths that were asked for.
-/

namespace ProjectTags

/-- A value together with the paths that were asked for to find it, in order. -/
structure Probed (α : Type) where
  value : α
  asked : List Text
  deriving Repr

namespace Probed

instance : Monad Probed where
  pure value := ⟨value, []⟩
  bind first next := ⟨(next first.value).value, first.asked ++ (next first.value).asked⟩

@[simp]
theorem value_pure {α : Type} (a : α) : (pure a : Probed α).value = a := rfl

@[simp]
theorem asked_pure {α : Type} (a : α) : (pure a : Probed α).asked = [] := rfl

@[simp]
theorem value_bind {α β : Type} (first : Probed α) (next : α → Probed β) :
    (first >>= next).value = (next first.value).value := rfl

@[simp]
theorem asked_bind {α β : Type} (first : Probed α) (next : α → Probed β) :
    (first >>= next).asked = first.asked ++ (next first.value).asked := rfl

/-- Asks whether something is at a path. -/
def ask (present : Text → Bool) (path : Text) : Probed Bool :=
  ⟨present path, [path]⟩

end Probed

namespace Root

/-- Asks for each marker in a directory until one is there. -/
def holdsMarker (present : Text → Bool) : List Text → Text → Probed Bool
  | [], _ => pure false
  | marker :: others, directory => do
      if ← Probed.ask present (Path.join directory marker) then return true
      else holdsMarker present others directory

/-- The first of some directories that holds a marker. -/
def firstWithMarker (present : Text → Bool) (markers : List Text) :
    List Text → Probed (Option Text)
  | [] => pure none
  | directory :: others => do
      if ← holdsMarker present markers directory then return some directory
      else firstWithMarker present markers others

/-- The nearest directory with a marker at or above a place, which is taken from the current
directory. -/
def nearest (present : Text → Bool) (markers : List Text) (current place : Text) :
    Probed (Option Text) :=
  firstWithMarker present markers (Path.ancestors (Path.absolutize place current))

end Root

end ProjectTags
