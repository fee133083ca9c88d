/-
Where a path leads, what is found there, and what is read back from a file
that was written.

A path is followed through directories only, and a file is never written
over one. So a write moves no path: every part of it is a directory still,
perhaps with another time (`exists_directory_put`), the path leads where it
led (`follow_put`), and the file at its end holds the text
(`read_written`).

A text without bytes is found out when its file is open already. All that
is left of such a write is an empty file (`emptied_of_written`).
-/
import Highlight.Host.Machine
import Mathlib.Tactic.Common

namespace Highlight

namespace FileTree

variable {t : FileTree} {place other here there : Place} {n : FileNode}
  {time : Int} {parts : List String}

/-- A directory whose time is set is a directory. -/
theorem exists_directory_setChanged (place : Place) (now : Int)
    (h : t.node? other = some (.directory time)) :
    ∃ time', (t.setChanged place now).node? other
      = some (.directory time') := by
  by_cases hp : other = place
  · subst hp
    cases other with
    | nil => exact ⟨0, rfl⟩
    | cons name names =>
        rw [node?_of_ne_root _ (List.cons_ne_nil _ _)] at h ⊢
        refine ⟨now, ?_⟩
        unfold setChanged
        rw [h]
        exact Entries.lookup_put_self _ _ _
  · exact ⟨time, (t.node?_setChanged_of_ne hp now).trans h⟩

/-- A directory is one still when a node has been put elsewhere. -/
theorem exists_directory_put (n : FileNode) (hp : other ≠ place)
    (h : t.node? other = some (.directory time)) :
    ∃ time', (t.put place n).node? other = some (.directory time') := by
  by_cases hr : other = []
  · exact ⟨0, by rw [hr, node?_root]⟩
  · have hput (above : FileTree) (clock : Int) :
        (FileTree.mk (Entries.put place n above.nodes) clock).node? other
          = above.node? other := by
      rw [node?_of_ne_root _ hr, node?_of_ne_root _ hr]
      exact Entries.lookup_put_of_ne _ _ hp
    unfold put
    dsimp only
    rw [hput]
    split
    · exact ⟨time, h⟩
    · exact exists_directory_setChanged _ _ h

/-- A place at which a node that is no directory was put lies on no path,
so all paths lead where they led. -/
theorem follow_put (n : FileNode)
    (hp : ∀ time, t.node? place ≠ some (.directory time))
    (h : t.follow here parts = .ok there) :
    (t.put place n).follow here parts = .ok there := by
  induction parts generalizing here with
  | nil => exact h
  | cons part parts ih =>
      unfold follow at h ⊢
      split at h
      · cases h
      · cases h
      · next time hdir =>
        have hne : here ≠ place := by
          rintro rfl
          exact hp time hdir
        obtain ⟨time', hdir'⟩ := exists_directory_put n hne hdir
        rw [hdir']
        dsimp only
        split at h
        · next hup =>
          rw [if_pos hup]
          exact ih h
        · next hup =>
          rw [if_neg hup]
          split at h
          · cases h
          · next hlong =>
            rw [if_neg hlong]
            exact ih h

end FileTree

namespace Machine

variable {m m' : Machine} {p q : Path} {t : Text} {place : Place}
  {n : FileNode} {cause : FileCause} {content : Bytes} {time : Int}

-- ================================================= where a path leads

/-- The zero byte of a path is found among its characters. -/
theorem place_eq (m : Machine) (p : Path) : m.place p =
    if p.parts.any fun part => '\x00' ∈ part.toList then
      .error .zeroByte
    else if FileTree.longestPath < p.text.utf8ByteSize then
      .error .nameTooLong
    else m.tree.follow (if p.root = "" then m.here else []) p.parts := by
  unfold place
  simp only [String.contains_char_eq]

theorem node_of_place (h : m.place p = .ok place)
    (hn : m.tree.node? place = some n) : m.node p = .ok n := by
  unfold node
  rw [h]
  dsimp only [bind, Except.bind]
  rw [hn]

/-- What is read where a path leads to a file. -/
theorem read_of_place (h : m.place p = .ok place)
    (hn : m.tree.node? place = some (.file content time)) :
    m.read p = .ok content := by
  unfold read
  rw [node_of_place h hn]
  rfl

/-- Nothing is read where there is nothing. -/
theorem read_of_absent (h : m.place p = .ok place)
    (hn : m.tree.node? place = none) : m.read p = .error .missing := by
  unfold read node
  rw [h]
  dsimp only [bind, Except.bind]
  rw [hn]

-- ============================================================== bytes

/-- The bytes of a text are always the same ones. -/
theorem eq_encode_of_encode? (h : m.encode? t = some content) :
    content = Utf8.encode t := by
  unfold encode? at h
  split at h
  · cases h
  · cases h
    rfl

-- ============================================================= a write

/-- Where there is no directory, a write puts a file. -/
theorem written_of_place (h : m.place p = .ok place)
    (hdir : ∀ time, m.tree.node? place ≠ some (.directory time))
    (t : Text) : m.written p t = .ok { m with
      tree := m.tree.putFile place ((m.encode? t).getD []) } := by
  unfold written
  rw [h]
  dsimp only [bind, Except.bind]
  split
  · next time hnode => exact absurd hnode (hdir time)
  · rfl

theorem written_of_directory (h : m.place p = .ok place)
    (hn : m.tree.node? place = some (.directory time)) (t : Text) :
    m.written p t = .error .isDirectory := by
  unfold written
  rw [h]
  dsimp only [bind, Except.bind]
  rw [hn]

theorem written_of_unplaced (h : m.place p = .error cause) (t : Text) :
    m.written p t = .error cause := by
  unfold written
  rw [h]
  rfl

/-- A write is the putting of a file at a place that is no directory. -/
theorem exists_of_written (h : m.written p t = .ok m') :
    ∃ place, m.place p = .ok place
      ∧ (∀ time, m.tree.node? place ≠ some (.directory time))
      ∧ m' = { m with
        tree := m.tree.putFile place ((m.encode? t).getD []) } := by
  cases hp : m.place p with
  | error cause =>
      rw [written_of_unplaced hp] at h
      cases h
  | ok place =>
      have hdir (time : Int) :
          m.tree.node? place ≠ some (.directory time) := by
        intro hn
        rw [written_of_directory hp hn] at h
        cases h
      rw [written_of_place hp hdir] at h
      cases h
      exact ⟨place, rfl, hdir, rfl⟩

/-- The path leads to a place at which a file is or can be made. -/
def CanWrite (m : Machine) (p : Path) : Prop :=
  ∃ place, m.place p = .ok place
    ∧ ∀ time, m.tree.node? place ≠ some (.directory time)

/-- Where there is nothing, a file can be made. -/
theorem canWrite_of_absent (h : m.place p = .ok place)
    (hn : m.tree.node? place = none) : m.CanWrite p := by
  refine ⟨place, h, fun time hdir => ?_⟩
  cases hn.symm.trans hdir

/-- Such a file can be opened for any text. -/
theorem CanWrite.exists_written (h : m.CanWrite p) (t : Text) :
    ∃ m', m.written p t = .ok m' := by
  obtain ⟨place, hplace, hdir⟩ := h
  exact ⟨_, written_of_place hplace hdir t⟩

-- ========================================================= the way back

/-- A path leads after a write where it led before. -/
theorem place_written (h : m.written p t = .ok m')
    (hq : m.place q = .ok place) : m'.place q = .ok place := by
  obtain ⟨there, -, hdir, rfl⟩ := exists_of_written h
  unfold Machine.place at hq ⊢
  split at hq
  · cases hq
  · next hzero =>
    rw [if_neg hzero]
    split at hq
    · cases hq
    · next hlong =>
      rw [if_neg hlong]
      exact FileTree.follow_put _ hdir hq

/-- A file that was opened for a text holds its bytes, if there are any. -/
theorem read_written (h : m.written p t = .ok m') :
    m'.read p = .ok ((m.encode? t).getD []) := by
  obtain ⟨place, hplace, hdir, hm⟩ := exists_of_written h
  have hroot : place ≠ [] := by
    rintro rfl
    exact hdir 0 rfl
  have hnode : m'.tree.node? place
      = some (.file ((m.encode? t).getD []) m.tree.clock) := by
    rw [hm]
    exact FileTree.node?_putFile_self _ hroot _
  exact read_of_place (place_written h hplace) hnode

-- ======================================================== what is left

/-- A file is empty, all others are as they were, and nothing was put
out. -/
structure Emptied (m m' : Machine) (p : Path) : Prop where
  tree : ∃ place, m.place p = .ok place
    ∧ (∀ time, m.tree.node? place ≠ some (.directory time))
    ∧ m'.tree = m.tree.putFile place []
  output : m'.output = m.output

/-- A text without bytes leaves its file empty. -/
theorem emptied_of_written (h : m.written p t = .ok m')
    (hnone : m.encode? t = none) : m.Emptied m' p := by
  obtain ⟨place, hplace, hdir, rfl⟩ := exists_of_written h
  rw [hnone]
  exact ⟨⟨place, hplace, hdir, rfl⟩, rfl⟩

end Machine

end Highlight
