import IndexerSettings.Settings.Endpoint

/-!
# Ports added once

A port is added where there is a known scheme and no colon but that of the
scheme (`withDefaultPort_exact`).  The colon before the port is then a second
one, so an address that was given a port names one, and is not given another;
and the scheme is still what it begins with.
-/

namespace IndexerSettings.Endpoint

variable {endpoint scheme suffix : String} {port : Nat}

/-! ## Schemes -/

/-- What an address begins with. -/
def HasScheme (endpoint scheme : String) : Prop := scheme.toList <+: endpoint.toList

instance : Decidable (HasScheme endpoint scheme) :=
  inferInstanceAs (Decidable (scheme.toList <+: endpoint.toList))

theorem HasScheme.append (h : HasScheme endpoint scheme) (suffix : String) :
    HasScheme (endpoint ++ suffix) scheme := by
  rw [HasScheme, String.toList_append]
  exact h.trans (List.prefix_append _ _)

/-- Neither of the known schemes begins with the other. -/
theorem not_http_of_https (h : HasScheme endpoint "https:") : ¬HasScheme endpoint "http:" := by
  intro h'
  have hprefix : "http:".toList <+: "https:".toList :=
    List.prefix_of_prefix_length_le h' h (by decide)
  exact absurd hprefix (by decide)

theorem defaultPort?_eq_some_iff :
    defaultPort? endpoint = some port ↔
      (HasScheme endpoint "https:" ∧ port = 443) ∨ (HasScheme endpoint "http:" ∧ port = 80) := by
  have hbegins : ∀ scheme : String,
      scheme.toList.isPrefixOf endpoint.toList = decide (HasScheme endpoint scheme) := by
    intro scheme
    rw [Bool.eq_iff_iff, List.isPrefixOf_iff_prefix, decide_eq_true_eq, HasScheme]
  simp only [defaultPort?, knownSchemes, List.find?_cons, List.find?_nil, hbegins]
  by_cases hhttps : HasScheme endpoint "https:"
  · simp [hhttps, not_http_of_https hhttps, eq_comm]
  · by_cases hhttp : HasScheme endpoint "http:"
    · simp [hhttps, hhttp, eq_comm]
    · simp [hhttps, hhttp]

theorem defaultPort?_isSome_iff :
    (defaultPort? endpoint).isSome ↔ HasScheme endpoint "https:" ∨ HasScheme endpoint "http:" := by
  simp [Option.isSome_iff_exists, defaultPort?_eq_some_iff, exists_or]

theorem defaultPort?_append (h : defaultPort? endpoint = some port) (suffix : String) :
    defaultPort? (endpoint ++ suffix) = some port := by
  rw [defaultPort?_eq_some_iff] at h ⊢
  rcases h with ⟨hscheme, hport⟩ | ⟨hscheme, hport⟩
  · exact .inl ⟨hscheme.append suffix, hport⟩
  · exact .inr ⟨hscheme.append suffix, hport⟩

/-- An address of a known scheme has the colon of the scheme in it. -/
theorem colon_mem_of_defaultPort? (h : defaultPort? endpoint = some port) :
    ':' ∈ endpoint.toList := by
  rcases defaultPort?_eq_some_iff.mp h with ⟨hscheme, -⟩ | ⟨hscheme, -⟩
  · exact hscheme.subset (by decide)
  · exact hscheme.subset (by decide)

/-! ## Ports -/

theorem namesPort_iff_of_defaultPort? (h : defaultPort? endpoint = some port) :
    namesPort endpoint = true ↔ endpoint.toList.count ':' ≠ 1 := by
  have hcount : 1 ≤ endpoint.toList.count ':' :=
    List.one_le_count_iff.mpr (colon_mem_of_defaultPort? h)
  rw [namesPort, decide_eq_true_eq]
  omega

theorem namesPort_withPort (h : ':' ∈ endpoint.toList) (port : Nat) :
    namesPort (endpoint ++ ":" ++ toString port) = true := by
  have hcount : 1 ≤ endpoint.toList.count ':' := List.one_le_count_iff.mpr h
  have hsplit : (endpoint ++ ":" ++ toString port).toList
      = endpoint.toList ++ ([':'] ++ (toString port).toList) := by simp
  rw [namesPort, hsplit, List.count_append, List.count_append, List.count_singleton_self,
    decide_eq_true_eq]
  omega

theorem withDefaultPort_of_none (h : defaultPort? endpoint = none) :
    withDefaultPort endpoint = endpoint := by
  rw [withDefaultPort, h]
  simp

theorem withDefaultPort_of_some (h : defaultPort? endpoint = some port) :
    withDefaultPort endpoint
      = if namesPort endpoint then endpoint else endpoint ++ ":" ++ toString port := by
  have hnonempty : endpoint.isEmpty = false := by
    cases hempty : endpoint.isEmpty with
    | false => rfl
    | true =>
        have hcolon := colon_mem_of_defaultPort? h
        rw [String.isEmpty_iff.mp hempty] at hcolon
        exact absurd hcolon (by decide)
  rw [withDefaultPort, h, hnonempty, Bool.false_or]

theorem namesPort_withDefaultPort (h : defaultPort? endpoint = some port) :
    namesPort (withDefaultPort endpoint) = true := by
  rw [withDefaultPort_of_some h]
  split
  · assumption
  · exact namesPort_withPort (colon_mem_of_defaultPort? h) port

theorem defaultPort?_withDefaultPort (endpoint : String) :
    defaultPort? (withDefaultPort endpoint) = defaultPort? endpoint := by
  cases h : defaultPort? endpoint with
  | none => rw [withDefaultPort_of_none h, h]
  | some port =>
      rw [withDefaultPort_of_some h]
      split
      · exact h
      · exact defaultPort?_append (defaultPort?_append h ":") (toString port)

theorem withDefaultPort_idempotent (endpoint : String) :
    withDefaultPort (withDefaultPort endpoint) = withDefaultPort endpoint := by
  cases h : defaultPort? endpoint with
  | none => rw [withDefaultPort_of_none h, withDefaultPort_of_none h]
  | some port =>
      have hport : defaultPort? (withDefaultPort endpoint) = some port := by
        rw [defaultPort?_withDefaultPort, h]
      rw [withDefaultPort_of_some hport, if_pos (namesPort_withDefaultPort h)]

theorem withDefaultPort_of_count (h : defaultPort? endpoint = some port)
    (hcount : endpoint.toList.count ':' = 1) :
    withDefaultPort endpoint = endpoint ++ ":" ++ toString port := by
  rw [withDefaultPort_of_some h, if_neg]
  intro hnames
  exact (namesPort_iff_of_defaultPort? h).mp hnames hcount

theorem withDefaultPort_ne_iff :
    withDefaultPort endpoint ≠ endpoint ↔
      (HasScheme endpoint "https:" ∨ HasScheme endpoint "http:")
        ∧ endpoint.toList.count ':' = 1 := by
  rw [← defaultPort?_isSome_iff]
  cases h : defaultPort? endpoint with
  | none => simp [withDefaultPort_of_none h]
  | some port =>
      rw [Option.isSome_some, eq_self, true_and]
      constructor
      · intro hne
        rw [withDefaultPort_of_some h] at hne
        split at hne
        · exact absurd rfl hne
        · rename_i hnames
          exact Decidable.not_not.mp fun hcount =>
            hnames ((namesPort_iff_of_defaultPort? h).mpr hcount)
      · intro hcount heq
        have hlength := congrArg String.length (withDefaultPort_of_count h hcount)
        rw [heq, String.length_append, String.length_append] at hlength
        have hcolon : ":".length = 1 := rfl
        omega

/-- When an address is given a port, which one, and what that changes.  It keeps
the port that its scheme implies, names a port from then on if its scheme implies
one, and is left alone when it is looked at again. -/
theorem withDefaultPort_exact (endpoint : String) :
    (withDefaultPort endpoint ≠ endpoint ↔
      (HasScheme endpoint "https:" ∨ HasScheme endpoint "http:")
        ∧ endpoint.toList.count ':' = 1)
    ∧ (endpoint.toList.count ':' = 1 →
      (HasScheme endpoint "https:" → withDefaultPort endpoint = endpoint ++ ":443")
      ∧ (HasScheme endpoint "http:" → withDefaultPort endpoint = endpoint ++ ":80"))
    ∧ withDefaultPort (withDefaultPort endpoint) = withDefaultPort endpoint
    ∧ defaultPort? (withDefaultPort endpoint) = defaultPort? endpoint
    ∧ ((defaultPort? endpoint).isSome → namesPort (withDefaultPort endpoint) = true) := by
  refine ⟨withDefaultPort_ne_iff, fun hcount => ⟨fun hscheme => ?_, fun hscheme => ?_⟩,
    withDefaultPort_idempotent endpoint, defaultPort?_withDefaultPort endpoint, fun hsome => ?_⟩
  · have hport := defaultPort?_eq_some_iff.mpr (.inl ⟨hscheme, rfl⟩)
    rw [withDefaultPort_of_count hport hcount, String.append_assoc]
    rfl
  · have hport := defaultPort?_eq_some_iff.mpr (.inr ⟨hscheme, rfl⟩)
    rw [withDefaultPort_of_count hport hcount, String.append_assoc]
    rfl
  · obtain ⟨port, hport⟩ := Option.isSome_iff_exists.mp hsome
    exact namesPort_withDefaultPort hport

/-- Letters beyond ASCII, and a scheme with nothing behind it. -/
theorem withDefaultPort_exact_accent :
    "http://é".toList.count ':' = 1 ∧ HasScheme "http://é" "http:"
    ∧ withDefaultPort "http://é" = "http://é:80"
    ∧ withDefaultPort "https:" = "https::443" ∧ namesPort (withDefaultPort "https:") = true := by
  have hcount : "http://é".toList.count ':' = 1 := by decide
  have hscheme : HasScheme "http://é" "http:" := by decide
  obtain ⟨-, hport, -⟩ := withDefaultPort_exact "http://é"
  obtain ⟨-, hport', -, -, hnames⟩ := withDefaultPort_exact "https:"
  exact ⟨hcount, hscheme, (hport hcount).2 hscheme, (hport' (by decide)).1 (by decide),
    hnames (by decide)⟩

end IndexerSettings.Endpoint
