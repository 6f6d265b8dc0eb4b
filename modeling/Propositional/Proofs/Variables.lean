import Propositional.Proofs.Outcomes
import Propositional.Settings.Environment

namespace Propositional

namespace Dotenv

theorem set_extends (env : Environment) (b : Binding) : Gives (set env b) (env <+: ·) := by
  obtain ⟨name, value⟩ := b
  cases value with
  | none => exact List.prefix_rfl
  | some v =>
    simp only [set]
    split_ifs
    · exact List.prefix_rfl
    · exact trivial
    · exact trivial
    · exact List.prefix_append env _

theorem sets_extend (env : Environment) (bound : List Binding) :
    Gives (bound.foldlM set env) (env <+: ·) := by
  induction bound generalizing env with
  | nil => exact List.prefix_rfl
  | cons b bound ih =>
    rw [List.foldlM_cons]
    refine (set_extends env b).bind (fun next hnext => ?_)
    exact (ih next).mono (fun _ h => h) (fun found h => hnext.trans h)

/-- What is added to an environment stands behind it. -/
theorem prefix_of_load (h : load env text = .ok found) : env <+: found :=
  (sets_extend env _).of_ok h

/-- A variable that is set keeps its value, whatever a file has for it. -/
theorem lookup_of_load (h : load env text = .ok found) (hset : env.lookup name = some v) :
    found.lookup name = some v := by
  obtain ⟨added, rfl⟩ := prefix_of_load h
  rw [List.lookup_append, hset]
  rfl

end Dotenv

namespace Settings
variable [Interpreter]

/-- Where there are no files there is none of variables. -/
theorem of_dotenv_nowhere (env : Environment) : ofDotenv env ⟨[]⟩ "" = ofEnvironment env := by
  have hread : Files.readText ⟨[]⟩ "" = .error (.file (.failed .noSuchFile "")) := by
    decide +kernel
  exact of_dotenv_missing hread

theorem of_environment_congr (h : ∀ name ∈ variableNames, env.lookup name = found.lookup name) :
    ofEnvironment env = ofEnvironment found := by
  simp only [variableNames, List.forall_mem_cons] at h
  rw [ofEnvironment, ofEnvironment, h.1, h.2.1, h.2.2.1]

/-- A file of variables does not change the settings of a process that has all three variables. It
can only keep them from being made. -/
theorem of_dotenv_of_set (hset : ∀ name ∈ variableNames, (env.lookup name).isSome)
    (h : ofDotenv env files path = .ok s) : ofEnvironment env = .ok s := by
  unfold ofDotenv at h
  split at h
  · exact h
  · split at h
    · rename_i text _
      cases hload : Dotenv.load env text with
      | error fault =>
        rw [hload] at h
        cases h
      | ok found =>
        rw [hload] at h
        have hsame : ∀ name ∈ variableNames, env.lookup name = found.lookup name := by
          intro name hm
          obtain ⟨v, hv⟩ := Option.isSome_iff_exists.mp (hset name hm)
          rw [hv, Dotenv.lookup_of_load hload hv]
        exact (of_environment_congr hsame).trans h
    · exact h
    · cases h

end Settings

end Propositional
