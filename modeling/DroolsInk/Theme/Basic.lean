import DroolsInk.Theme.Role

/-!
# Themes

A theme gives every role a face. It stores only the faces that were chosen, each role at most once,
and falls back to the built-in face for the others. A face that was chosen stays chosen even if it
equals the built-in one.
-/

namespace DroolsInk

/-- A choice of faces for some of the roles. -/
structure Theme where
  chosen : List (Role × Face) := []
  deriving DecidableEq, Repr

/-- The theme that chooses nothing. -/
def Theme.builtin : Theme where

/-- Chooses a face for a role, in place of any face chosen before. -/
def Theme.set (theme : Theme) (role : Role) (face : Face) : Theme :=
  ⟨(role, face) :: theme.chosen.filter (·.1 ≠ role)⟩

def Theme.face (theme : Theme) (role : Role) : Face :=
  (theme.chosen.lookup role).getD role.builtin

def Theme.faceOfKind (theme : Theme) (kind : Kind) : Face :=
  theme.face (.ofKind kind)

@[simp] theorem Theme.face_set_self (theme : Theme) (role : Role) (face : Face) :
    (theme.set role face).face role = face := by
  simp [Theme.set, Theme.face]

private theorem lookup_filter_ne {role other : Role} (h : other ≠ role)
    (faces : List (Role × Face)) :
    (faces.filter (·.1 ≠ role)).lookup other = faces.lookup other := by
  induction faces with
  | nil => rfl
  | cons entry rest ih =>
    obtain ⟨key, face⟩ := entry
    by_cases hkey : key = role
    · subst hkey
      have hbeq : (other == key) = false := by simpa using h
      simpa [List.lookup_cons, hbeq] using ih
    · by_cases hother : other = key
      · subst hother
        simp [hkey]
      · have hbeq : (other == key) = false := by simpa using hother
        simpa [hkey, List.lookup_cons, hbeq] using ih

theorem Theme.face_set_of_ne (theme : Theme) {role other : Role} (h : other ≠ role) (face : Face) :
    (theme.set role face).face other = theme.face other := by
  have hbeq : (other == role) = false := by simpa using h
  unfold Theme.set Theme.face
  rw [List.lookup_cons, hbeq]
  simp only [lookup_filter_ne h]

end DroolsInk
