import Mathlib
import LogViewer.Command.Corpus
import LogViewer.Proofs.Success

/-! Where every command begins. It goes on exactly if the settings have no problem and the file
holds a document; otherwise it says so or fails, ends with code 1 and writes nothing. -/
namespace LogViewer

/-- Whether a command has ended with the code of a failure and has written nothing. -/
structure Report.Fails (r : Report) (code : Nat) : Prop where
  exitCode_eq : r.ending.exitCode = code
  written_eq : r.written = none

theorem Report.fails_refuse (reasons : List Block) : (refuse reasons).Fails 1 := ⟨rfl, rfl⟩

theorem Report.fails_fail (shown : List Block) (fault : Fault) : (fail shown fault).Fails 1 :=
  ⟨rfl, rfl⟩

theorem Report.fails_misused : ({ ending := .misused } : Report).Fails 2 := ⟨rfl, rfl⟩

/-- The second in which the commands of the examples run. -/
def Surroundings.sampleSecond : Second := ⟨⟨2025, 10, 15, by decide, by decide⟩, 7, 33, 22⟩

variable [Text.StandIns]

namespace Files

variable {files : Files} {settings : Settings} {path : String}

theorem corpusAt_eq_ok_iff {corpus : Corpus} :
    files.corpusAt settings path = .ok corpus ↔
      ∃ bytes loaded, files.read? (.ofText path) = .ok (some bytes) ∧
        loadText settings (textOfFile bytes) (Path.ofText path).name = .ok loaded ∧
        loaded.corpus = corpus := by
  constructor
  · intro h
    unfold corpusAt at h
    split at h
    · cases h
    · cases h
    · rename_i bytes hRead
      split at h
      · rename_i loaded hLoad
        exact ⟨bytes, loaded, hRead, hLoad, Except.ok.inj h⟩
      · cases h
  · rintro ⟨bytes, loaded, hRead, hLoad, rfl⟩
    unfold corpusAt
    rw [hRead]
    simp only [hLoad]

/-- Where there is no corpus, a command fails, whatever the reason. -/
theorem fails_of_corpusAt {report : Report} (h : files.corpusAt settings path = .error report) :
    report.Fails 1 := by
  unfold corpusAt at h
  split at h
  · cases h
    exact Report.fails_fail _ _
  · cases h
    exact Report.fails_refuse _
  · split at h
    · cases h
    · cases h
      split
      · exact Report.fails_refuse _
      · exact Report.fails_fail _ _

end Files

namespace Surroundings

variable {s : Surroundings} {path : String}

/-- Whether a command finds a corpus in the file at a path, with settings that have no problem. -/
structure Finds (s : Surroundings) (path : String) (settings : Settings) (corpus : Corpus) : Prop
    where
  settings_eq : Settings.ofEnvironment s.environment = .ok settings
  problems_eq : settings.problems = []
  loaded : ∃ bytes loaded, s.files.read? (.ofText path) = .ok (some bytes) ∧
    loadText settings (textOfFile bytes) (Path.ofText path).name = .ok loaded ∧
    loaded.corpus = corpus

theorem Finds.withCorpus_eq {settings : Settings} {corpus : Corpus}
    (h : s.Finds path settings corpus) (next : Settings → Corpus → Report) :
    s.withCorpus path next = next settings corpus := by
  unfold withCorpus
  simp only [h.settings_eq, h.problems_eq, Files.corpusAt_eq_ok_iff.mpr h.loaded]
  rfl

/-- A command goes on only with a corpus that it finds. -/
theorem withCorpus_cases (s : Surroundings) (path : String) :
    (∃ settings corpus, s.Finds path settings corpus) ∨
      (∀ settings corpus, ¬s.Finds path settings corpus) ∧
        ∀ next, (s.withCorpus path next).Fails 1 := by
  by_cases hFinds : ∃ settings corpus, s.Finds path settings corpus
  · exact Or.inl hFinds
  · simp only [not_exists] at hFinds
    refine Or.inr ⟨hFinds, fun next => ?_⟩
    unfold withCorpus
    split
    · exact Report.fails_fail _ _
    · rename_i settings hSettings
      split
      · exact Report.fails_refuse _
      · rename_i hProblems
        split
        · rename_i report hReport
          exact Files.fails_of_corpusAt hReport
        · rename_i corpus hCorpus
          have hFound : s.Finds path settings corpus :=
            ⟨hSettings, not_not.mp hProblems, Files.corpusAt_eq_ok_iff.mp hCorpus⟩
          exact absurd hFound (hFinds settings corpus)

/-- A command finds one corpus at most. -/
theorem Finds.unique {settings settings' : Settings} {corpus corpus' : Corpus}
    (h : s.Finds path settings corpus) (h' : s.Finds path settings' corpus') :
    settings = settings' ∧ corpus = corpus' := by
  obtain rfl := Except.ok.inj (h.settings_eq.symm.trans h'.settings_eq)
  have hCorpus := Files.corpusAt_eq_ok_iff.mpr h.loaded
  exact ⟨rfl, Except.ok.inj (hCorpus.symm.trans (Files.corpusAt_eq_ok_iff.mpr h'.loaded))⟩

end Surroundings

end LogViewer
