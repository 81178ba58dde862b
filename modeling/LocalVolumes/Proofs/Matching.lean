import LocalVolumes.Proofs.Lists
import LocalVolumes.Proofs.NameMap
import LocalVolumes.Selector

/-!
# LocalVolumes.Proofs.Matching — what a selector chooses

A selector is compiled before it is used.  Here its meaning is told from its text alone: when it is malformed, and which
labels it chooses.  The compiled conditions agree with that, so the order in which labels, expressions and values are
written does not matter, nor does it matter how often.
-/

namespace LocalVolumes

/-! ### The meaning of an expression -/

namespace LabelExpression

/-- The values of an expression; none where they are absent. -/
def valueList (e : LabelExpression) : List String := e.values.getD []

/-- What makes an expression malformed. -/
inductive Malformed (e : LabelExpression) : Prop
  | emptyKey (h : e.key = "")
  | unknownOperator (h : e.operator ∉ ["In", "NotIn", "Exists", "DoesNotExist"])
  | lacksValues (h : e.operator = "In" ∨ e.operator = "NotIn") (hv : e.valueList = [])
  | hasValues (h : e.operator = "Exists" ∨ e.operator = "DoesNotExist") (hv : e.valueList ≠ [])

/-- What labels have to be for an expression to choose them. -/
structure Chooses (e : LabelExpression) (labels : NameMap String) : Prop where
  isIn : e.operator = "In" → ∃ v, labels.get? e.key = some v ∧ v ∈ e.valueList
  /-- An absent label is as good as one with another value. -/
  notIn : e.operator = "NotIn" → ∀ v, labels.get? e.key = some v → v ∉ e.valueList
  present : e.operator = "Exists" → ∃ v, labels.get? e.key = some v
  absent : e.operator = "DoesNotExist" → labels.get? e.key = none

/-- Two expressions say the same of the same label, with the same set of values. -/
structure SameAs (e e' : LabelExpression) : Prop where
  key : e.key = e'.key
  operator : e.operator = e'.operator
  values : ∀ v, v ∈ e.valueList ↔ v ∈ e'.valueList

instance (e e' : LabelExpression) : Decidable (e.SameAs e') :=
  decidable_of_iff (e.key = e'.key ∧ e.operator = e'.operator ∧
      (∀ v ∈ e.valueList, v ∈ e'.valueList) ∧ ∀ v ∈ e'.valueList, v ∈ e.valueList)
    ⟨fun ⟨hk, ho, hv, hv'⟩ => ⟨hk, ho, fun v => ⟨hv v, hv' v⟩⟩,
      fun h => ⟨h.key, h.operator, fun v => (h.values v).1, fun v => (h.values v).2⟩⟩

namespace SameAs

variable {e e' : LabelExpression}

theorem symm (h : e.SameAs e') : e'.SameAs e := ⟨h.key.symm, h.operator.symm, fun v => (h.values v).symm⟩

theorem valueList_eq_nil_iff (h : e.SameAs e') : e.valueList = [] ↔ e'.valueList = [] := by
  simp only [List.eq_nil_iff_forall_not_mem, h.values]

theorem malformed (h : e.SameAs e') (hm : e.Malformed) : e'.Malformed := by
  cases hm with
  | emptyKey hk => exact .emptyKey (h.key ▸ hk)
  | unknownOperator ho => exact .unknownOperator (h.operator ▸ ho)
  | lacksValues ho hv => exact .lacksValues (h.operator ▸ ho) (h.valueList_eq_nil_iff.1 hv)
  | hasValues ho hv => exact .hasValues (h.operator ▸ ho) (mt h.valueList_eq_nil_iff.2 hv)

theorem chooses (h : e.SameAs e') {labels : NameMap String} (hc : e.Chooses labels) : e'.Chooses labels := by
  obtain ⟨hin, hnotIn, hpresent, habsent⟩ := hc
  simp only [h.key, h.operator, h.values] at hin hnotIn hpresent habsent
  exact ⟨hin, hnotIn, hpresent, habsent⟩

end SameAs

end LabelExpression

/-! ### The meaning of a selector -/

namespace LabelSelector

/-- The labels of a selector with their values. -/
def labelList (s : LabelSelector) : List (String × String) := (s.matchLabels.map (·.toList)).getD []

/-- The expressions of a selector. -/
def expressionList (s : LabelSelector) : List LabelExpression := s.matchExpressions.getD []

/-- A selector is malformed if one of its parts is. -/
def Malformed (s : LabelSelector) : Prop :=
  (∃ l ∈ s.labelList, l.1 = "") ∨ ∃ e ∈ s.expressionList, e.Malformed

/-- A selector chooses labels if each of its parts does. -/
def Chooses (s : LabelSelector) (labels : NameMap String) : Prop :=
  (∀ l ∈ s.labelList, labels.get? l.1 = some l.2) ∧ ∀ e ∈ s.expressionList, e.Chooses labels

/-- Two selectors have the same set of labels, and each expression of one has its equal in the other. -/
structure SameAs (s s' : LabelSelector) : Prop where
  labels : ∀ l, l ∈ s.labelList ↔ l ∈ s'.labelList
  left : ∀ e ∈ s.expressionList, ∃ e' ∈ s'.expressionList, e.SameAs e'
  right : ∀ e' ∈ s'.expressionList, ∃ e ∈ s.expressionList, e'.SameAs e

namespace SameAs

variable {s s' : LabelSelector}

theorem symm (h : s.SameAs s') : s'.SameAs s := ⟨fun l => (h.labels l).symm, h.right, h.left⟩

theorem malformed (h : s.SameAs s') (hm : s.Malformed) : s'.Malformed := by
  rcases hm with ⟨l, hl, hk⟩ | ⟨e, he, hm⟩
  · exact .inl ⟨l, (h.labels l).1 hl, hk⟩
  · obtain ⟨e', he', hsame⟩ := h.left e he
    exact .inr ⟨e', he', hsame.malformed hm⟩

theorem chooses (h : s.SameAs s') {labels : NameMap String} (hc : s.Chooses labels) : s'.Chooses labels := by
  refine ⟨fun l hl => hc.1 l ((h.labels l).2 hl), fun e' he' => ?_⟩
  obtain ⟨e, he, hsame⟩ := h.right e' he'
  exact hsame.symm.chooses (hc.2 e he)

end SameAs

end LabelSelector

/-! ### Compiled conditions -/

namespace Requirement

variable {labels : NameMap String} {k v : String} {vs : List String}

@[simp] theorem holds_equals_iff : (equals k v).holds labels = true ↔ labels.get? k = some v := beq_iff_eq

@[simp] theorem holds_isIn_iff : (isIn k vs).holds labels = true ↔ ∃ v, labels.get? k = some v ∧ v ∈ vs := by
  cases hk : labels.get? k <;> simp [holds, hk]

@[simp] theorem holds_notIn_iff : (notIn k vs).holds labels = true ↔ ∀ v, labels.get? k = some v → v ∉ vs := by
  cases hk : labels.get? k <;> simp [holds, hk]

@[simp] theorem holds_exists_iff : («exists» k).holds labels = true ↔ ∃ v, labels.get? k = some v :=
  Option.isSome_iff_exists

@[simp] theorem holds_doesNotExist_iff : (doesNotExist k).holds labels = true ↔ labels.get? k = none := by
  simp [holds, NameMap.contains]

end Requirement

namespace LabelExpression

variable {e : LabelExpression}

theorem not_malformed_of_values (hk : e.key ≠ "") (ho : e.operator = "In" ∨ e.operator = "NotIn")
    (hv : e.valueList ≠ []) : ¬ e.Malformed := by
  rintro (hk' | ho' | ⟨-, hv'⟩ | ⟨ho', -⟩)
  · exact hk hk'
  · rcases ho with ho | ho <;> simp [ho] at ho'
  · exact hv hv'
  · rcases ho with ho | ho <;> simp [ho] at ho'

theorem not_malformed_of_no_values (hk : e.key ≠ "") (ho : e.operator = "Exists" ∨ e.operator = "DoesNotExist")
    (hv : e.valueList = []) : ¬ e.Malformed := by
  rintro (hk' | ho' | ⟨ho', -⟩ | ⟨-, hv'⟩)
  · exact hk hk'
  · rcases ho with ho | ho <;> simp [ho] at ho'
  · rcases ho with ho | ho <;> simp [ho] at ho'
  · exact hv' hv

end LabelExpression

namespace Selector

open LabelExpression

/-- What comes of an expression: a fault if it is malformed, or else a condition that says the same. -/
def Compiles (e : LabelExpression) : Except Fault Requirement → Prop
  | .error _ => e.Malformed
  | .ok r => ¬ e.Malformed ∧ ∀ labels, r.holds labels = true ↔ e.Chooses labels

/-- The checks of an expression come in order: its key, its operator, its values. -/
theorem compiles_ofExpression (e : LabelExpression) : Compiles e (ofExpression e) := by
  have hvalues : e.values.getD [] = e.valueList := rfl
  simp only [ofExpression, hvalues]
  split_ifs with hk hin hv hnot hv hex hv hno hv
  · exact .emptyKey hk
  · exact .lacksValues (.inl hin) hv
  · refine ⟨not_malformed_of_values hk (.inl hin) hv, fun labels => ?_⟩
    rw [Requirement.holds_isIn_iff]
    exact ⟨fun h => ⟨fun _ => h, by simp [hin], by simp [hin], by simp [hin]⟩, fun h => h.isIn hin⟩
  · exact .lacksValues (.inr hnot) hv
  · refine ⟨not_malformed_of_values hk (.inr hnot) hv, fun labels => ?_⟩
    rw [Requirement.holds_notIn_iff]
    exact ⟨fun h => ⟨by simp [hnot], fun _ => h, by simp [hnot], by simp [hnot]⟩, fun h => h.notIn hnot⟩
  · refine ⟨not_malformed_of_no_values hk (.inl hex) hv, fun labels => ?_⟩
    rw [Requirement.holds_exists_iff]
    exact ⟨fun h => ⟨by simp [hex], by simp [hex], fun _ => h, by simp [hex]⟩, fun h => h.present hex⟩
  · exact .hasValues (.inl hex) hv
  · refine ⟨not_malformed_of_no_values hk (.inr hno) hv, fun labels => ?_⟩
    rw [Requirement.holds_doesNotExist_iff]
    exact ⟨fun h => ⟨by simp [hno], by simp [hno], by simp [hno], fun _ => h⟩, fun h => h.absent hno⟩
  · exact .hasValues (.inr hno) hv
  · exact .unknownOperator (by simp [hin, hnot, hex, hno])

theorem exists_ofExpression_iff {e : LabelExpression} : (∃ r, ofExpression e = .ok r) ↔ ¬ e.Malformed := by
  have hcompiles := compiles_ofExpression e
  cases he : ofExpression e with
  | error fault =>
    rw [he] at hcompiles
    have hmalformed : e.Malformed := hcompiles
    simpa using hmalformed
  | ok r =>
    rw [he] at hcompiles
    exact iff_of_true ⟨r, rfl⟩ hcompiles.1

theorem holds_iff_of_ofExpression {e : LabelExpression} {r : Requirement} (h : ofExpression e = .ok r)
    (labels : NameMap String) : r.holds labels = true ↔ e.Chooses labels := by
  have hcompiles := compiles_ofExpression e
  rw [h] at hcompiles
  exact hcompiles.2 labels

theorem exists_ofLabel_iff {l : String × String} : (∃ r, ofLabel l = .ok r) ↔ l.1 ≠ "" := by
  unfold ofLabel
  split <;> simp [*]

theorem eq_of_ofLabel {l : String × String} {r : Requirement} (h : ofLabel l = .ok r) : r = .equals l.1 l.2 := by
  unfold ofLabel at h
  split at h
  · cases h
  · exact (Except.ok.inj h).symm

/-- The conditions of a selector are those of its labels and then those of its expressions. -/
theorem compile_eq_ok_iff {s : LabelSelector} {c : Selector} :
    compile s = .ok c ↔ ∃ ls es, s.labelList.mapM ofLabel = .ok ls ∧ s.expressionList.mapM ofExpression = .ok es ∧
      ⟨ls ++ es⟩ = c := by
  simp only [compile, LabelSelector.labelList, LabelSelector.expressionList]
  cases ((s.matchLabels.map (·.toList)).getD []).mapM ofLabel <;>
    cases (s.matchExpressions.getD []).mapM ofExpression <;> simp [bind, Except.bind]

/-- A selector is compiled just if it is not malformed. -/
theorem exists_compile_iff {s : LabelSelector} : (∃ c, compile s = .ok c) ↔ ¬ s.Malformed := by
  have hparts : (∃ c, compile s = .ok c) ↔
      (∃ ls, s.labelList.mapM ofLabel = .ok ls) ∧ ∃ es, s.expressionList.mapM ofExpression = .ok es := by
    simp only [compile_eq_ok_iff]
    exact ⟨fun ⟨_, ls, es, hls, hes, _⟩ => ⟨⟨ls, hls⟩, es, hes⟩, fun ⟨⟨ls, hls⟩, es, hes⟩ => ⟨_, ls, es, hls, hes, rfl⟩⟩
  rw [hparts, exists_mapM_iff, exists_mapM_iff]
  simp only [exists_ofLabel_iff, exists_ofExpression_iff, LabelSelector.Malformed, not_or, not_exists, not_and, ne_eq]

/-- The compiled conditions choose what the selector chooses. -/
theorem matchesLabels_iff {s : LabelSelector} {c : Selector} (h : compile s = .ok c) (labels : NameMap String) :
    c.matchesLabels labels = true ↔ s.Chooses labels := by
  obtain ⟨ls, es, hls, hes, rfl⟩ := compile_eq_ok_iff.1 h
  have hlabels : (∀ r ∈ ls, r.holds labels = true) ↔ ∀ l ∈ s.labelList, labels.get? l.1 = some l.2 :=
    forall_mem_iff_of_mapM hls fun l r hr => by rw [eq_of_ofLabel hr, Requirement.holds_equals_iff]
  have hexpressions : (∀ r ∈ es, r.holds labels = true) ↔ ∀ e ∈ s.expressionList, e.Chooses labels :=
    forall_mem_iff_of_mapM hes fun e r hr => holds_iff_of_ofExpression hr labels
  rw [matchesLabels, List.all_eq_true]
  simp only [List.forall_mem_append, hlabels, hexpressions, LabelSelector.Chooses]

/-- A selector is refused just if it is malformed. -/
theorem exists_compile_eq_error_iff {s : LabelSelector} : (∃ fault, compile s = .error fault) ↔ s.Malformed := by
  rw [← not_iff_not, ← exists_compile_iff]
  cases compile s <;> simp

end Selector

open Selector

/-- **A selector chooses what its text says.**  It is refused if one of its parts is malformed, and only then.
Otherwise its conditions are met by the labels that each label and each expression of the text chooses.  A text with
the same labels, expressions and values in any order, and any number of times, is refused alike and chooses alike. -/
theorem selector_chooses_as_written (s : LabelSelector) :
    ((∃ fault, compile s = .error fault) ↔ s.Malformed) ∧
      (∀ c, compile s = .ok c → ∀ labels, c.matchesLabels labels = true ↔ s.Chooses labels) ∧
      ∀ s', s.SameAs s' →
        ((∃ fault, compile s = .error fault) ↔ ∃ fault, compile s' = .error fault) ∧
          ∀ c c', compile s = .ok c → compile s' = .ok c' →
            ∀ labels, c.matchesLabels labels = c'.matchesLabels labels := by
  refine ⟨exists_compile_eq_error_iff, fun c hc => matchesLabels_iff hc, fun s' hsame => ⟨?_, ?_⟩⟩
  · rw [exists_compile_eq_error_iff, exists_compile_eq_error_iff]
    exact ⟨hsame.malformed, hsame.symm.malformed⟩
  · intro c c' hc hc' labels
    rw [Bool.eq_iff_iff, matchesLabels_iff hc, matchesLabels_iff hc']
    exact ⟨hsame.chooses, hsame.symm.chooses⟩

namespace Sample

/-- A selector with a label and an expression of every kind. -/
def fastDisks : LabelSelector :=
  { matchLabels := some (NameMap.ofList [("tier", "fast")])
    matchExpressions := some [⟨"zone", "In", some ["a", "b"]⟩, ⟨"disk", "NotIn", some ["hdd"]⟩, ⟨"lvm", "Exists", none⟩,
      ⟨"broken", "DoesNotExist", none⟩] }

/-- The same in another order, with repetitions. -/
def fastDisksAgain : LabelSelector :=
  { fastDisks with
    matchExpressions := some [⟨"broken", "DoesNotExist", some []⟩, ⟨"zone", "In", some ["b", "a", "b"]⟩,
      ⟨"lvm", "Exists", none⟩, ⟨"disk", "NotIn", some ["hdd", "hdd"]⟩, ⟨"zone", "In", some ["a", "b"]⟩] }

theorem sameAs_fastDisksAgain : fastDisks.SameAs fastDisksAgain := ⟨fun _ => Iff.rfl, by decide, by decide⟩

/-- The labels of a group that the selector chooses. -/
def fastLabels : NameMap String := NameMap.ofList [("tier", "fast"), ("zone", "b"), ("lvm", "")]

end Sample

/-- Both texts are accepted, and the second chooses labels that the first does. -/
theorem selector_chooses_as_written_again :
    Sample.fastDisks.SameAs Sample.fastDisksAgain ∧
      ∃ c c', compile Sample.fastDisks = .ok c ∧ compile Sample.fastDisksAgain = .ok c' ∧
        c.matchesLabels Sample.fastLabels = true ∧ c'.matchesLabels Sample.fastLabels = true ∧
        Sample.fastDisksAgain.Chooses Sample.fastLabels := by
  have hsame := Sample.sameAs_fastDisksAgain
  obtain ⟨-, hchooses, -⟩ := selector_chooses_as_written Sample.fastDisksAgain
  obtain ⟨-, hequal⟩ := (selector_chooses_as_written Sample.fastDisks).2.2 _ hsame
  have hfirst : Selector.matchesLabels _ Sample.fastLabels = true :=
    (show ((compile Sample.fastDisks).toOption.any (·.matchesLabels Sample.fastLabels)) = true by decide)
  have hagain := (hequal _ _ rfl rfl Sample.fastLabels).symm.trans hfirst
  exact ⟨hsame, _, _, rfl, rfl, hfirst, hagain, (hchooses _ rfl _).1 hagain⟩

end LocalVolumes
