import AndroidTether.IniMerge

/-!
# Merging more than one file

A file as a list of commands on the section and the configuration: merging it
again changes nothing, and a file that begins with a heading can be put behind
another one.
-/

namespace AndroidTether

open Checked Text

/-- The effect of a line on the section and the configuration. -/
def IniLine.apply (state : Text × TetherConfig) :
    IniLine → Text × TetherConfig
  | .nothing => state
  | .heading name => (toLowercase name, state.2)
  | .assignment key val => (state.1, state.2.assign state.1 key val)

/-- A line that opens no section and changes no setting, whatever section it
stands in. -/
def IniLine.Ineffective : IniLine → Prop
  | .nothing => True
  | .heading _ => False
  | .assignment key val =>
      ∀ (sectionName : Text) (self : TetherConfig),
        self.assign sectionName key val = self

/-- The first effective line of a file is a heading. -/
def StartsWithHeading (contents : Text) : Prop :=
  ∃ before name after,
    (lines contents).map IniLine.read = before ++ .heading name :: after ∧
      ∀ line ∈ before, line.Ineffective

theorem IniLine.Ineffective.apply_eq {line : IniLine}
    (ineffective : line.Ineffective) (state : Text × TetherConfig) :
    line.apply state = state := by
  cases line with
  | nothing => rfl
  | heading name => exact ineffective.elim
  | assignment key val =>
      rw [apply, ineffective state.1 state.2]

theorem foldl_apply_ineffective {found : List IniLine}
    (ineffective : ∀ line ∈ found, line.Ineffective)
    (state : Text × TetherConfig) :
    found.foldl IniLine.apply state = state := by
  induction found with
  | nil => rfl
  | cons line found ih =>
      obtain ⟨first, rest⟩ := List.forall_mem_cons.mp ineffective
      rw [List.foldl_cons, first.apply_eq state, ih rest]

theorem trim_stripReturn (line : Text) : trim (stripReturn line) = trim line := by
  rw [stripReturn]
  split_ifs with ends
  · obtain ⟨init, rfl⟩ := List.getLast?_eq_some_iff.mp ends
    have space : isWhitespace '\r' = true := rfl
    rw [List.dropLast_concat, trim, trim, List.dropWhile_append]
    split_ifs with blank
    · rw [List.isEmpty_iff.mp blank, List.dropWhile_cons_of_pos space]
      rfl
    · rw [List.rdropWhile_concat_pos _ _ _ space]
  · rfl

theorem IniLine.read_stripReturn (line : Text) :
    IniLine.read (stripReturn line) = IniLine.read line := by
  simp only [IniLine.read, trim_stripReturn]

/-- The lines of a file, cut at every line feed. -/
def cutLines (contents : Text) : List IniLine :=
  (contents.splitOn '\n').map IniLine.read

theorem cutLines_append (first second : Text) :
    cutLines (first ++ '\n' :: second) = cutLines first ++ cutLines second := by
  rw [cutLines, List.splitOn_append_cons_self, List.map_append, cutLines,
    cutLines]

/-- Cutting at every line feed makes no difference. -/
theorem foldl_lines (contents : Text) (state : Text × TetherConfig) :
    ((lines contents).map IniLine.read).foldl IniLine.apply state =
      (cutLines contents).foldl IniLine.apply state := by
  obtain ⟨init, last, cut⟩ : ∃ init last,
      contents.splitOn '\n' = init ++ [last] :=
    ⟨_, _, (List.dropLast_append_getLast (List.splitOn_ne_nil _ _)).symm⟩
  have lastLine (before : Text × TetherConfig) :
      (([last].filter (· ≠ [])).map IniLine.read).foldl IniLine.apply before =
        [IniLine.read last].foldl IniLine.apply before := by
    by_cases empty : last = []
    · subst empty
      rfl
    · simp [empty]
  have stripped : (init.map stripReturn).map IniLine.read =
      init.map IniLine.read := by
    rw [List.map_map]
    exact List.map_congr_left fun line _ => IniLine.read_stripReturn line
  rw [cutLines, lines, cut, List.dropLast_concat, List.getLast?_concat,
    List.map_append, stripped, List.map_append, List.foldl_append,
    List.foldl_append]
  exact lastLine _

theorem mergeLine_apply (state : Text × TetherConfig) (raw : Text) :
    TetherConfig.mergeLine state raw =
      .ok (IniLine.apply state (IniLine.read raw)) := by
  rw [TetherConfig.mergeLine_eq]
  cases IniLine.read raw <;> rfl

theorem foldlM_mergeLine_apply (raws : List Text)
    (state : Text × TetherConfig) :
    raws.foldlM TetherConfig.mergeLine state =
      .ok ((raws.map IniLine.read).foldl IniLine.apply state) := by
  induction raws generalizing state with
  | nil => rfl
  | cons raw raws ih =>
      rw [List.foldlM_cons, mergeLine_apply, ok_bind, ih, List.map_cons,
        List.foldl_cons]

theorem mergeIni_apply (self : TetherConfig) (contents : Text) :
    self.mergeIni contents =
      .ok (((lines contents).map IniLine.read).foldl IniLine.apply
        ([], self)).2 := by
  rw [TetherConfig.mergeIni, foldlM_mergeLine_apply, ok_bind]
  rfl

theorem StartsWithHeading.foldl_apply {contents : Text}
    (starts : StartsWithHeading contents) (sectionName : Text)
    (self : TetherConfig) :
    ((lines contents).map IniLine.read).foldl IniLine.apply
        (sectionName, self) =
      ((lines contents).map IniLine.read).foldl IniLine.apply ([], self) := by
  obtain ⟨before, name, after, read, ineffective⟩ := starts
  rw [read, List.foldl_append, List.foldl_append,
    foldl_apply_ineffective ineffective, foldl_apply_ineffective ineffective]
  rfl

/-- A file that starts with a heading can be put behind another one. -/
theorem mergeIni_joined (self : TetherConfig) (contents : Text) {later : Text}
    (starts : StartsWithHeading later) :
    self.mergeIni (contents ++ '\n' :: later) =
      (self.mergeIni contents >>= (·.mergeIni later)) := by
  rw [mergeIni_apply, mergeIni_apply, ok_bind, mergeIni_apply, foldl_lines,
    cutLines_append, List.foldl_append, ← foldl_lines contents,
    ← foldl_lines later, starts.foldl_apply]

theorem Layer.above_self (layer : Layer) : layer.above layer = layer := by
  simp [Layer.above]

/-- Merging a file again changes nothing. -/
theorem mergeIni_twice (self : TetherConfig) (contents : Text) :
    (self.mergeIni contents >>= (·.mergeIni contents)) =
      self.mergeIni contents := by
  rw [TetherConfig.mergeIni_eq, ok_bind, TetherConfig.mergeIni_eq,
    ← Layer.above_onto, Layer.above_self]

/-- What merging files means: the last valid assignment of each setting wins,
a file counts once, and two files count as one if the second begins with a
heading. -/
theorem mergeIni_lastValid (self : TetherConfig) (contents : Text) :
    self.mergeIni contents = .ok ((Layer.ofFile contents).onto self) ∧
      (self.mergeIni contents >>= (·.mergeIni contents)) =
        self.mergeIni contents ∧
      ∀ later, StartsWithHeading later →
        self.mergeIni (contents ++ '\n' :: later) =
          (self.mergeIni contents >>= (·.mergeIni later)) :=
  ⟨self.mergeIni_eq contents, mergeIni_twice self contents,
    fun _ starts => mergeIni_joined self contents starts⟩

/-- `no_route = true` in a section that the next file does not go on with. -/
theorem routeFile_joined :
    TetherConfig.default.mergeIni ("[network]\nno_route = true".toList ++
        '\n' :: "; DNS\n[dns]\nmode = doh".toList) =
      .ok { TetherConfig.default with noRoute := true, dnsMode := .doH } := by
  have starts : StartsWithHeading "; DNS\n[dns]\nmode = doh".toList :=
    ⟨[.nothing], "dns".toList, [.assignment "mode".toList "doh".toList], rfl,
      by simp [IniLine.Ineffective]⟩
  exact ((mergeIni_lastValid _ _).2.2 _ starts).trans rfl

end AndroidTether
