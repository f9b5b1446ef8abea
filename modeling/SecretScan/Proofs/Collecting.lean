import SecretScan.Proofs.Verdict

/-!
# Collecting findings

A host that judges many literals may hand on one list and let the findings of each be added to it.
Nothing is looked up in that list: what a literal adds is its own verdict
(`Configuration.evaluateInto_eq_append`), whatever has been found before. Over a run of any length
this gives

```
collect cs findings        = findings ++ cs.flatMap evaluate
contributions cs findings  = cs.map evaluate
```

and the right sides do not mention what was there, nor what came before a literal. So literals may
be judged in any order, and each adds what it would add by itself.
-/

namespace SecretScan.Configuration

variable {config : Configuration}

/-- Judges literals in turn and adds what is found to one list. -/
def collect (config : Configuration) (cs : List Candidate) (findings : List Finding) :
    List Finding :=
  cs.foldl (fun findings c ↦ config.evaluateInto c findings) findings

/-- What each literal has added to the list, seen from outside: what stands behind the end of the
list as it was before. -/
def contributions (config : Configuration) : List Candidate → List Finding → List (List Finding)
  | [], _ => []
  | c :: cs, findings =>
    let after := config.evaluateInto c findings
    after.drop findings.length :: contributions config cs after

/-- **A step.** A skipped literal leaves the list as it is. -/
theorem evaluateInto_of_skipped {c : Candidate} (h : (Suppression.check config c).isSome)
    (findings : List Finding) : config.evaluateInto c findings = findings := by
  rw [evaluateInto_eq, if_pos h, List.append_nil]

/-- **A run.** What was there stays in front, and the verdicts follow in order. -/
theorem collect_eq (config : Configuration) (cs : List Candidate) (findings : List Finding) :
    config.collect cs findings = findings ++ cs.flatMap config.evaluate := by
  induction cs generalizing findings with
  | nil => exact (List.append_nil findings).symm
  | cons c cs ih =>
    show config.collect cs (config.evaluateInto c findings) = _
    rw [ih, evaluateInto_eq_append, List.append_assoc, List.flatMap_cons]

/-- Each literal adds its own verdict. -/
theorem contributions_eq (config : Configuration) (cs : List Candidate)
    (findings : List Finding) : config.contributions cs findings = cs.map config.evaluate := by
  induction cs generalizing findings with
  | nil => rfl
  | cons c cs ih =>
    have hadded : (config.evaluateInto c findings).drop findings.length = config.evaluate c := by
      rw [evaluateInto_eq_append, List.drop_left]
    rw [contributions, ih, hadded, List.map_cons]

/-- **One list is as good as many.** The list that a run of any length leaves is the one it was
given, untouched, and behind it the verdicts of the literals in order. A skipped literal leaves the
list as it was. What each literal adds is its verdict, whatever the list held; so in another order,
and into another list, every literal adds the same. -/
theorem collecting_equals_evaluating (config : Configuration) :
    (∀ cs findings, config.collect cs findings = findings ++ (cs.map config.evaluate).flatten) ∧
      (∀ c findings, (Suppression.check config c).isSome →
        config.evaluateInto c findings = findings) ∧
      (∀ cs findings, config.contributions cs findings = cs.map config.evaluate) ∧
      ∀ (cs cs' : List Candidate) findings findings', cs.Perm cs' →
        (cs.zip (config.contributions cs findings)).Perm
          (cs'.zip (config.contributions cs' findings')) := by
  refine ⟨fun cs findings ↦ ?_, fun c findings h ↦ evaluateInto_of_skipped h findings,
    contributions_eq config, fun cs cs' findings findings' hperm ↦ ?_⟩
  · rw [collect_eq, List.flatMap_def]
  · -- Beside its verdict every literal makes a pair that does not depend on its place.
    have hpairs : ∀ cs : List Candidate, cs.zip (cs.map config.evaluate) =
        cs.map fun c ↦ (c, config.evaluate c) := fun cs ↦ List.map_prod_left_eq_zip.symm
    rw [contributions_eq, contributions_eq, hpairs, hpairs]
    exact hperm.map _

end SecretScan.Configuration
