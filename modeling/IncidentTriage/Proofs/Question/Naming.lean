import IncidentTriage.Proofs.Question.Narrowing

/-!
# Services that questions name

A question is searched in lower case for the names of the services in lower case, and the service
that it names is the text that was found. It is narrowed to traces whose root service is this text,
so a service is found under its name only if the name is written in lower case.
-/

namespace IncidentTriage.Question
open IncidentTriage.Index IncidentTriage.Ingestion IncidentTriage.Retrieval IncidentTriage.Text

/-- The name stands at the head of the text, and no longer one does. -/
structure LongestAt (names : List (List Char)) (cs n : List Char) : Prop where
  mem : n ∈ names
  head : n <+: cs
  longest : ∀ m ∈ names, m <+: cs → m.length ≤ n.length

lemma foldl_longer (first : List Char) (rest : List (List Char)) :
    rest.foldl longer first ∈ first :: rest ∧
      ∀ m ∈ first :: rest, m.length ≤ (rest.foldl longer first).length := by
  induction rest generalizing first with
  | nil => simp
  | cons next rest ih =>
    have hboth : (longer first next = first ∨ longer first next = next) ∧
        first.length ≤ (longer first next).length ∧
        next.length ≤ (longer first next).length := by
      unfold longer
      split
      · exact ⟨.inr rfl, by omega, le_refl _⟩
      · exact ⟨.inl rfl, le_refl _, by omega⟩
    obtain ⟨hone, hfirst, hnext⟩ := hboth
    obtain ⟨hmem, hlongest⟩ := ih (longer first next)
    have hkept := hlongest (longer first next) List.mem_cons_self
    rw [List.foldl_cons]
    constructor
    · rcases List.mem_cons.1 hmem with h | h
      · rw [h]
        rcases hone with h | h <;> simp [h]
      · simp [h]
    · intro m hm
      simp only [List.mem_cons] at hm
      rcases hm with rfl | rfl | hm
      · exact hfirst.trans hkept
      · exact hnext.trans hkept
      · exact hlongest m (List.mem_cons_of_mem _ hm)

lemma longestAt_of_nameAtHead {names : List (List Char)} {cs n : List Char}
    (h : nameAtHead? names cs = some n) : LongestAt names cs n := by
  unfold nameAtHead? at h
  split at h
  · contradiction
  · rename_i first rest hfilter
    obtain ⟨hmem, hlongest⟩ := foldl_longer first rest
    rw [Option.some.inj h, ← hfilter, List.mem_filter, List.isPrefixOf_iff_prefix] at hmem
    refine ⟨hmem.1, hmem.2, fun m hm hprefix => ?_⟩
    rw [← Option.some.inj h]
    refine hlongest m ?_
    rw [← hfilter, List.mem_filter, List.isPrefixOf_iff_prefix]
    exact ⟨hm, hprefix⟩

lemma nameAtHead_eq_none {names : List (List Char)} {cs : List Char} :
    nameAtHead? names cs = none ↔ ∀ n ∈ names, ¬n <+: cs := by
  unfold nameAtHead?
  split
  · rename_i hfilter
    simpa [List.filter_eq_nil_iff, List.isPrefixOf_iff_prefix] using hfilter
  · rename_i first rest hfilter
    have hmem : first ∈ names.filter fun n => n.isPrefixOf cs := hfilter ▸ List.mem_cons_self
    rw [List.mem_filter, List.isPrefixOf_iff_prefix] at hmem
    simpa using ⟨first, hmem.1, hmem.2⟩

lemma mem_of_firstName {names : List (List Char)} {cs n : List Char}
    (h : firstName? names cs = some n) : n ∈ names := by
  induction cs with
  | nil => contradiction
  | cons c cs ih =>
    rw [firstName?] at h
    cases hhead : nameAtHead? names (c :: cs) with
    | none =>
      rw [hhead, Option.none_or] at h
      exact ih h
    | some m =>
      rw [hhead, Option.some_or, Option.some.injEq] at h
      exact h ▸ (longestAt_of_nameAtHead hhead).mem

/-- A text that is a name itself names nothing else. -/
lemma firstName_self {names : List (List Char)} {cs : List Char} (hne : cs ≠ [])
    (h : cs ∈ names) : firstName? names cs = some cs := by
  obtain ⟨c, rest, rfl⟩ := List.exists_cons_of_ne_nil hne
  cases hhead : nameAtHead? names (c :: rest) with
  | none => exact absurd List.prefix_rfl (nameAtHead_eq_none.1 hhead _ h)
  | some n =>
    have hn := longestAt_of_nameAtHead hhead
    have hwhole := hn.head.eq_of_length_le (hn.longest _ h List.prefix_rfl)
    rw [firstName?, hhead, Option.some_or, hwhole]

lemma mem_wantedNames {services : List String} {n : List Char} :
    n ∈ wantedNames services ↔ ∃ service ∈ services, service ≠ "" ∧ lower service.toList = n := by
  simp [wantedNames, and_assoc]

lemma lower_ne_nil {cs : List Char} (h : cs ≠ []) : lower cs ≠ [] := by
  obtain ⟨c, rest, rfl⟩ := List.exists_cons_of_ne_nil h
  rw [lower, lowerFrom, lowerOne]
  split
  · simp
  · split <;> simp

lemma lowercase_ne_empty {s : String} (h : s ≠ "") : lowercase s ≠ "" := by
  have hne : lower s.toList ≠ [] := lower_ne_nil (by simpa using h)
  simpa [lowercase] using hne

/-- The service that a question names is some service's name in lower case. -/
lemma exists_of_service {services : List String} {question name : String}
    (h : (classify services question).service = some name) :
    ∃ service ∈ services, service ≠ "" ∧ lowercase service = name := by
  obtain ⟨cs, hcs, rfl⟩ := Option.map_eq_some_iff.1 h
  obtain ⟨service, hmem, hne, hlower⟩ := mem_wantedNames.1 (mem_of_firstName hcs)
  exact ⟨service, hmem, hne, by rw [lowercase, hlower]⟩

/-- Asked for by its name alone, a service is named in lower case. -/
lemma service_of_name {services : List String} {service : String} (h : service ∈ services)
    (hne : service ≠ "") : (classify services service).service = some (lowercase service) := by
  have hcs : lower service.toList ≠ [] := lower_ne_nil (by simpa using hne)
  have hmem : lower service.toList ∈ wantedNames services := mem_wantedNames.2 ⟨service, h, hne, rfl⟩
  change (firstName? (wantedNames services) (lower service.toList)).map String.ofList = _
  rw [firstName_self hcs hmem]
  rfl

/-- A chunk of a narrative that meets all else that is asked meets the filter for a question that
names a service exactly when the narrative's root service is the named one. -/
lemma meets_of_named {q : Classified} {name : String} (hservice : q.service = some name)
    (hname : name ≠ "") {s : Splitters} {n : Narrative} {d : Document}
    (hd : d ∈ s.chunks n.document) (embedding : Value)
    (hother : ∀ t ∈ termsFor q.intent, (Session.rowOf d embedding).read t.key = t.value) :
    ∃ met, (Session.rowOf d embedding).meets (configure q).filter = .ok met ∧
      (met = true ↔ n.rootService = name) := by
  obtain ⟨met, hmet, hiff⟩ := meets_configure q (Session.rowOf d embedding)
  have hunnamed : Admits ⟨q.intent, none⟩ (Session.rowOf d embedding) :=
    admits_iff.2 ⟨hother, fun _ _ h => by contradiction⟩
  obtain ⟨hintent, herrors, _⟩ := (admits_narrative hd embedding _).1 hunnamed
  refine ⟨met, hmet, ?_⟩
  rw [hiff, admits_narrative hd embedding q]
  constructor
  · intro h
    exact h.2.2 name hservice hname
  · intro hroot
    refine ⟨hintent, herrors, fun named hnamed _ => ?_⟩
    rw [hroot]
    exact Option.some.inj (hservice.symm.trans hnamed)

/-- The service that the question names is one of those given, and every trace of it is found: the
chunks of a trace whose root service it is meet the filter for the question, if they meet all else
that is asked. -/
def Finds (services : List String) (question : String) : Prop :=
  ∀ name, (classify services question).service = some name →
    name ∈ services ∧
      ∀ (s : Splitters) (embedding : Value) (n : Narrative), n.rootService = name →
        ∀ d ∈ s.chunks n.document,
          (∀ t ∈ termsFor (classify services question).intent,
            (Session.rowOf d embedding).read t.key = t.value) →
          (Session.rowOf d embedding).meets (configure (classify services question)).filter =
            .ok true

lemma finds_iff {services : List String} {question : String} :
    Finds services question ↔
      ∀ name, (classify services question).service = some name → name ∈ services := by
  constructor
  · intro h name hname
    exact (h name hname).1
  · intro h name hname
    refine ⟨h name hname, fun s embedding n hroot d hd hother => ?_⟩
    obtain ⟨service, _, hne, hlower⟩ := exists_of_service hname
    have hnonempty : name ≠ "" := hlower ▸ lowercase_ne_empty hne
    obtain ⟨met, hmet, hiff⟩ := meets_of_named hname hnonempty hd embedding hother
    rw [hmet, hiff.2 hroot]

/-- The service that a question names is the name of a given service in lower case, and a chunk of a
trace that meets all else that is asked meets the filter if and only if its root service is written
so. Every question finds the service that it names if and only if the lower-case form of every name
is given as well. -/
theorem named_services_found_iff (services : List String) :
    (∀ question name, (classify services question).service = some name →
      (∃ service ∈ services, service ≠ "" ∧ lowercase service = name) ∧
        ∀ (s : Splitters) (embedding : Value) (n : Narrative), ∀ d ∈ s.chunks n.document,
          (∀ t ∈ termsFor (classify services question).intent,
            (Session.rowOf d embedding).read t.key = t.value) →
          ∃ met, (Session.rowOf d embedding).meets
              (configure (classify services question)).filter = .ok met ∧
            (met = true ↔ n.rootService = name)) ∧
    ((∀ question, Finds services question) ↔
      ∀ service ∈ services, service ≠ "" → lowercase service ∈ services) := by
  constructor
  · intro question name hname
    obtain ⟨service, hmem, hne, hlower⟩ := exists_of_service hname
    have hnonempty : name ≠ "" := hlower ▸ lowercase_ne_empty hne
    refine ⟨⟨service, hmem, hne, hlower⟩, fun s embedding n d hd hother => ?_⟩
    exact meets_of_named hname hnonempty hd embedding hother
  · constructor
    · intro h service hmem hne
      exact finds_iff.1 (h service) _ (service_of_name hmem hne)
    · intro h question
      refine finds_iff.2 fun name hname => ?_
      obtain ⟨service, hmem, hne, hlower⟩ := exists_of_service hname
      exact hlower ▸ h service hmem hne

theorem named_services_found_of_cart :
    let services := ["order-service", "Cart", "cart"]
    classify services "Why is the CART slow?" = ⟨.performanceAnalysis, some "cart"⟩ ∧
      Finds services "Why is the CART slow?" := by
  intro services
  refine ⟨by decide +kernel, ?_⟩
  exact (named_services_found_iff services).2.2 (by decide +kernel) _

/-- A service that is only given with a capital is not found: no chunk of its traces meets the
filter, though they meet all else that is asked. -/
theorem capitalized_service_not_found :
    let services := ["Checkout"]
    let question := "Tell me about Checkout"
    classify services question = ⟨.serviceSpecific, some "checkout"⟩ ∧ ¬Finds services question ∧
      ∃ n, Narrative.ofTrace (Narrative.rawTraceOf "Checkout") = .ok (some n) ∧
        n.rootService = "Checkout" ∧ ∀ (s : Splitters) (embedding : Value),
          s.chunks n.document ≠ [] ∧ ∀ d ∈ s.chunks n.document,
            (∀ t ∈ termsFor .serviceSpecific,
              (Session.rowOf d embedding).read t.key = t.value) ∧
            (Session.rowOf d embedding).meets (configure (classify services question)).filter =
              .ok false := by
  intro services question
  have hclassify : classify services question = ⟨.serviceSpecific, some "checkout"⟩ := by
    decide +kernel
  refine ⟨hclassify, ?_, ?_⟩
  · rw [finds_iff, hclassify]
    exact fun h => absurd (h "checkout" rfl) (by decide)
  · obtain ⟨n, hn, hroot, _⟩ :=
      Narrative.exists_ofTrace_rawTraceOf "Checkout" (by decide)
    refine ⟨n, hn, hroot, fun s embedding => ⟨(isWhole_chunks s hn).nonempty, fun d hd => ?_⟩⟩
    have hother : ∀ t ∈ termsFor .serviceSpecific,
        (Session.rowOf d embedding).read t.key = t.value :=
      (admits_iff.1 ((admits_narrative hd embedding ⟨.serviceSpecific, none⟩).2 (by simp))).1
    refine ⟨hother, ?_⟩
    rw [hclassify]
    obtain ⟨met, hmet, hiff⟩ := meets_of_named (q := ⟨.serviceSpecific, some "checkout"⟩) rfl
      (by decide) hd embedding hother
    rw [hmet, Bool.eq_false_iff.2 fun h => absurd (hroot.symm.trans (hiff.1 h)) (by decide)]

end IncidentTriage.Question
