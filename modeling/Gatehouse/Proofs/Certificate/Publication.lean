import Gatehouse.Certificate.Cache

/-!
# The certificate that is first published

Callers that ask an endpoint for certificates at the same time may each be issued another one for
the same host name. Whatever the order of their steps, the first certificate that is handed to the
cache for a host name stays there, and it is the one that everybody is given.

## Main definitions

* `CertificateCall.Does` : what one step of a caller does.
* `CertificateDesk.handed` : the certificates that a run hands to the cache.
* `CertificateCache.Keeps` : everything that is published stays so.
* `CertificateDesk.IsSound` : what is known of the callers and of the cache at any time.

## Main results

* `CertificateDesk.get?_cache_run` : what is published after a run.
* `CertificateDesk.IsSound.run` : soundness is kept.
* `CertificateDesk.exists_call_run` : what the steps of a caller keep is kept in a run.
* `CertificateDesk.certificates_of_run` : the certificates of any number of callers.
-/

namespace Gatehouse

variable {issuer : Issuer} {hostname : String} {cache cache' : CertificateCache}
  {asked asked' : Nat} {call call' : CertificateCall}

/-! ### The cache -/

namespace CertificateCache

theorem get?_publish (cache : CertificateCache) (hostname other : String) (c : Certificate) :
    (cache.publish hostname c).get? other =
      (cache.get? other).or (if other = hostname then some c else none) := by
  unfold publish
  split
  next held hheld =>
    by_cases hother : other = hostname
    · simp [hother, hheld]
    · simp [hother]
  next hfree =>
    rw [Dictionary.get?_insert]
    by_cases hother : other = hostname
    · simp [hother, hfree]
    · simp [hother]

/-- Everything that is published in one cache is published in the other. -/
def Keeps (cache cache' : CertificateCache) : Prop :=
  ∀ hostname c, cache.get? hostname = some c → cache'.get? hostname = some c

theorem Keeps.refl (cache : CertificateCache) : cache.Keeps cache := fun _ _ => id

theorem Keeps.trans {cache'' : CertificateCache} (h : cache.Keeps cache')
    (h' : cache'.Keeps cache'') : cache.Keeps cache'' :=
  fun hostname c hc => h' hostname c (h hostname c hc)

theorem keeps_publish (cache : CertificateCache) (hostname : String) (c : Certificate) :
    cache.Keeps (cache.publish hostname c) := by
  intro other held hheld
  rw [get?_publish, hheld]
  rfl

end CertificateCache

/-! ### What one step does -/

namespace CertificateCall

/-- What one step of a caller does to the cache, to the number of requests to the issuer, and to
how far the caller has come. -/
inductive Does (issuer : Issuer) (hostname : String) (cache : CertificateCache) (asked : Nat) :
    CertificateCall → CertificateCache → Nat → CertificateCall → Prop
  | found {c : Certificate} (hc : cache.get? hostname = some c) :
      Does issuer hostname cache asked .looking cache asked (.answered (.ok c))
  | missed (hnone : cache.get? hostname = none) :
      Does issuer hostname cache asked .looking cache asked .asking
  | issued {c : Certificate} (hc : issuer asked hostname = .ok c) :
      Does issuer hostname cache asked .asking cache (asked + 1) (.publishing c)
  | refused {cause : RouterError} (hcause : issuer asked hostname = .error cause) :
      Does issuer hostname cache asked .asking cache (asked + 1) (.answered (.error cause))
  | published {c : Certificate} :
      Does issuer hostname cache asked (.publishing c) (cache.publish hostname c) asked (.reading c)
  | readBack {c : Certificate} :
      Does issuer hostname cache asked (.reading c) cache asked
        (.answered (.ok ((cache.get? hostname).getD c)))
  | rested {r : Except RouterError Certificate} :
      Does issuer hostname cache asked (.answered r) cache asked (.answered r)

theorem does_step (issuer : Issuer) (hostname : String) (cache : CertificateCache) (asked : Nat)
    (call : CertificateCall) :
    Does issuer hostname cache asked call (call.step issuer hostname cache asked).1
      (call.step issuer hostname cache asked).2.1 (call.step issuer hostname cache asked).2.2 := by
  cases call with
  | looking =>
    cases hcache : cache.get? hostname with
    | none => simpa only [step, hcache] using .missed hcache
    | some c => simpa only [step, hcache] using .found hcache
  | asking =>
    cases hissuer : issuer asked hostname with
    | error cause => simpa only [step, hissuer] using .refused hissuer
    | ok c => simpa only [step, hissuer] using .issued hissuer
  | publishing c => exact .published
  | reading c => exact .readBack
  | answered r => exact .rested

theorem Does.keeps (h : Does issuer hostname cache asked call cache' asked' call') :
    cache.Keeps cache' := by
  cases h with
  | published => exact cache.keeps_publish hostname _
  | found | missed | issued | refused | readBack | rested => exact .refl cache

theorem Does.asked_le (h : Does issuer hostname cache asked call cache' asked' call') :
    asked ≤ asked' := by
  cases h <;> omega

/-- A step hands nothing to the cache for another host name. -/
theorem Does.get?_of_ne (h : Does issuer hostname cache asked call cache' asked' call')
    {other : String} (hother : other ≠ hostname) : cache'.get? other = cache.get? other := by
  cases h with
  | published => simp [CertificateCache.get?_publish, hother]
  | found | missed | issued | refused | readBack | rested => rfl

/-- The caller has been given a certificate. -/
def IsServed : CertificateCall → Prop
  | .publishing _ | .reading _ | .answered (.ok _) => True
  | .looking | .asking | .answered (.error _) => False

theorem IsServed.does (hcall : call.IsServed)
    (h : Does issuer hostname cache asked call cache' asked' call') : call'.IsServed := by
  cases h with
  | found | missed | issued | refused => exact hcall.elim
  | published | readBack => trivial
  | rested => exact hcall

/-- Only a caller that has been given a certificate changes the cache. -/
theorem Does.isServed_or (h : Does issuer hostname cache asked call cache' asked' call') :
    call.IsServed ∨ cache' = cache := by
  cases h with
  | published => exact .inl trivial
  | found | missed | issued | refused | readBack | rested => exact .inr rfl

/-- The caller comes after the publication of a certificate: it is about to find it, or has been
given it. -/
def IsSettled (c : Certificate) (call : CertificateCall) : Prop :=
  call = .looking ∨ call = .answered (.ok c)

theorem IsSettled.does {c : Certificate} (hcall : call.IsSettled c)
    (hc : cache.get? hostname = some c)
    (h : Does issuer hostname cache asked call cache' asked' call') :
    call'.IsSettled c ∧ asked' = asked := by
  rcases hcall with rfl | rfl
  · cases h with
    | found hfound => exact ⟨.inr (by rw [Option.some.inj (hfound.symm.trans hc)]), rfl⟩
    | missed hnone => cases hnone.symm.trans hc
  · cases h
    exact ⟨.inr rfl, rfl⟩

/-- How many steps it takes at most until the caller is answered. -/
def remaining : CertificateCall → Nat
  | .looking => 4
  | .asking => 3
  | .publishing _ => 2
  | .reading _ => 1
  | .answered _ => 0

theorem Does.remaining_le (h : Does issuer hostname cache asked call cache' asked' call') :
    call'.remaining ≤ call.remaining - 1 := by
  cases h <;> simp [remaining]

theorem exists_answered_of_remaining (h : call.remaining = 0) : ∃ r, call = .answered r := by
  cases call with
  | answered r => exact ⟨r, rfl⟩
  | looking | asking | publishing | reading => simp [remaining] at h

end CertificateCall

/-! ### Steps of many callers -/

namespace CertificateDesk

open CertificateCall (Does)

variable {d : CertificateDesk} {i : Nat}

theorem step_of_none (hi : d.calls[i]? = none) : d.step issuer i = d := by
  rw [step, hi]

/-- A caller makes its own step, and nothing else happens. -/
theorem exists_does_of_call (issuer : Issuer) (hi : d.calls[i]? = some (hostname, call)) :
    ∃ cache' asked' call', Does issuer hostname d.cache d.asked call cache' asked' call' ∧
      d.step issuer i = ⟨cache', asked', d.calls.set i (hostname, call')⟩ := by
  refine ⟨_, _, _, call.does_step issuer hostname d.cache d.asked, ?_⟩
  rw [step, hi]

theorem keeps_step (issuer : Issuer) (d : CertificateDesk) (i : Nat) :
    d.cache.Keeps (d.step issuer i).cache := by
  cases hi : d.calls[i]? with
  | none => rw [step_of_none hi]; exact .refl d.cache
  | some entry =>
    obtain ⟨cache', asked', call', hdoes, hstep⟩ := exists_does_of_call issuer hi
    rw [hstep]
    exact hdoes.keeps

/-- A published certificate is neither replaced nor removed. -/
theorem keeps_run (issuer : Issuer) (d : CertificateDesk) (order : List Nat) :
    d.cache.Keeps (d.run issuer order).cache := by
  induction order generalizing d with
  | nil => exact .refl d.cache
  | cons i order ih => exact (keeps_step issuer d i).trans (ih _)

/-! ### What is handed to the cache -/

/-- The host name and the certificate that the next step of a caller hands to the cache. -/
def handing? (d : CertificateDesk) (i : Nat) : Option (String × Certificate) :=
  match d.calls[i]? with
  | some (hostname, .publishing c) => some (hostname, c)
  | _ => none

/-- The host names and certificates that the steps of a run hand to the cache. -/
def handed (issuer : Issuer) (d : CertificateDesk) : List Nat → List (String × Certificate)
  | [] => []
  | i :: order => (d.handing? i).toList ++ (d.step issuer i).handed issuer order

theorem get?_cache_step (issuer : Issuer) (d : CertificateDesk) (i : Nat) (hostname : String) :
    (d.step issuer i).cache.get? hostname =
      (d.cache.get? hostname).or ((d.handing? i).toList.lookup hostname) := by
  cases hi : d.calls[i]? with
  | none => simp [step_of_none hi, handing?, hi]
  | some entry =>
    obtain ⟨own, call⟩ := entry
    obtain ⟨cache', asked', call', hdoes, hstep⟩ := exists_does_of_call issuer hi
    rw [hstep]
    cases hdoes with
    | published =>
      simp only [handing?, hi, CertificateCache.get?_publish]
      by_cases hown : hostname = own
      · simp [hown]
      · simp [hown, List.lookup_cons, beq_false_of_ne hown]
    | found | missed | issued | refused | readBack | rested => simp [handing?, hi]

/-- After a run, the cache holds for each host name what it held before, or else the first
certificate that the run handed to it. -/
theorem get?_cache_run (issuer : Issuer) (d : CertificateDesk) (order : List Nat)
    (hostname : String) :
    (d.run issuer order).cache.get? hostname =
      (d.cache.get? hostname).or ((d.handed issuer order).lookup hostname) := by
  induction order generalizing d with
  | nil => simp [run, handed]
  | cons i order ih =>
    change ((d.step issuer i).run issuer order).cache.get? hostname = _
    rw [ih, get?_cache_step, handed, List.lookup_append, Option.or_assoc]

/-! ### Soundness -/

/-- What is known of a caller. -/
def CallIsSound (issuer : Issuer) (cache : CertificateCache) (asked : Nat) (hostname : String) :
    CertificateCall → Prop
  | .looking | .asking => True
  | .publishing c => ∃ n < asked, issuer n hostname = .ok c
  | .reading _ => (cache.get? hostname).isSome
  | .answered (.ok c) => cache.get? hostname = some c
  | .answered (.error cause) => ∃ n < asked, issuer n hostname = .error cause

/-- Published certificates have been issued for their host names, answers are published
certificates or refusals of the issuer. -/
structure IsSound (issuer : Issuer) (d : CertificateDesk) : Prop where
  issued {hostname : String} {c : Certificate} (hc : d.cache.get? hostname = some c) :
    ∃ n < d.asked, issuer n hostname = .ok c
  calls {hostname : String} {call : CertificateCall} (hcall : (hostname, call) ∈ d.calls) :
    CallIsSound issuer d.cache d.asked hostname call

theorem CallIsSound.mono (h : CallIsSound issuer cache asked hostname call)
    (hcache : cache.Keeps cache') (hasked : asked ≤ asked') :
    CallIsSound issuer cache' asked' hostname call := by
  cases call with
  | looking | asking => trivial
  | publishing c =>
    obtain ⟨n, hn, hc⟩ := h
    exact ⟨n, by omega, hc⟩
  | reading c =>
    obtain ⟨held, hheld⟩ := Option.isSome_iff_exists.1 h
    exact Option.isSome_iff_exists.2 ⟨held, hcache _ _ hheld⟩
  | answered r =>
    cases r with
    | ok c => exact hcache _ _ h
    | error cause =>
      obtain ⟨n, hn, hcause⟩ := h
      exact ⟨n, by omega, hcause⟩

/-- A caller is sound after its own step. -/
theorem CallIsSound.does (hcall : CallIsSound issuer cache asked hostname call)
    (h : Does issuer hostname cache asked call cache' asked' call') :
    CallIsSound issuer cache' asked' hostname call' := by
  cases h with
  | found hc => exact hc
  | missed => trivial
  | issued hc => exact ⟨asked, asked.lt_succ_self, hc⟩
  | refused hcause => exact ⟨asked, asked.lt_succ_self, hcause⟩
  | published => simp [CallIsSound, CertificateCache.get?_publish]
  | readBack =>
    obtain ⟨held, hheld⟩ := Option.isSome_iff_exists.1 hcall
    simp [CallIsSound, hheld]
  | rested => exact hcall

/-- What a step publishes has been issued for the host name. -/
theorem CallIsSound.issued (hcall : CallIsSound issuer cache asked hostname call)
    (h : Does issuer hostname cache asked call cache' asked' call') {other : String}
    {c : Certificate} (hc : cache'.get? other = some c) :
    cache.get? other = some c ∨ ∃ n < asked', issuer n other = .ok c := by
  cases h with
  | published =>
    rw [CertificateCache.get?_publish, Option.or_eq_some_iff] at hc
    rcases hc with hc | ⟨-, hc⟩
    · exact .inl hc
    · split at hc
      next hother =>
        cases hc
        exact .inr (hother ▸ hcall)
      next => cases hc
  | found | missed | issued | refused | readBack | rested => exact .inl hc

theorem IsSound.step (hd : IsSound issuer d) (i : Nat) : IsSound issuer (d.step issuer i) := by
  cases hi : d.calls[i]? with
  | none => rwa [step_of_none hi]
  | some entry =>
    obtain ⟨hostname, call⟩ := entry
    have hcall := hd.calls (List.mem_of_getElem? hi)
    obtain ⟨cache', asked', call', hdoes, hstep⟩ := exists_does_of_call issuer hi
    rw [hstep]
    constructor
    · intro other c hc
      rcases hcall.issued hdoes hc with hc | hissued
      · obtain ⟨n, hn, hissued⟩ := hd.issued hc
        exact ⟨n, Nat.lt_of_lt_of_le hn hdoes.asked_le, hissued⟩
      · exact hissued
    · intro other otherCall hmem
      rcases List.mem_or_eq_of_mem_set hmem with hmem | heq
      · exact (hd.calls hmem).mono hdoes.keeps hdoes.asked_le
      · cases heq
        exact hcall.does hdoes

theorem IsSound.run (hd : IsSound issuer d) (order : List Nat) :
    IsSound issuer (d.run issuer order) := by
  induction order generalizing d with
  | nil => exact hd
  | cons i order ih => exact ih (hd.step i)

/-! ### One caller among many -/

/-- A step of a desk is a step of the caller, or leaves it as it is. -/
theorem exists_call_step (issuer : Issuer) (hi : d.calls[i]? = some (hostname, call)) (j : Nat) :
    ∃ call', (d.step issuer j).calls[i]? = some (hostname, call') ∧
      (j ≠ i ∧ call' = call ∨ j = i ∧ Does issuer hostname d.cache d.asked call
        (d.step issuer j).cache (d.step issuer j).asked call') := by
  by_cases hj : j = i
  · subst hj
    obtain ⟨cache', asked', call', hdoes, hstep⟩ := exists_does_of_call issuer hi
    refine ⟨call', ?_, .inr ⟨rfl, by rwa [hstep]⟩⟩
    rw [hstep, List.getElem?_set_self (List.getElem?_eq_some_iff.1 hi).1]
  · refine ⟨call, ?_, .inl ⟨hj, rfl⟩⟩
    cases hother : d.calls[j]? with
    | none => rwa [step_of_none hother]
    | some entry =>
      obtain ⟨cache', asked', call', -, hstep⟩ := exists_does_of_call issuer hother
      rwa [hstep, List.getElem?_set_ne hj]

/-- What the steps of a caller keep, as long as the cache keeps what it has, is kept in a run. -/
theorem exists_call_run {P : CertificateCall → Prop}
    (hkeep : ∀ {cache asked call cache' asked' call'}, d.cache.Keeps cache → P call →
      Does issuer hostname cache asked call cache' asked' call' → P call')
    (hi : d.calls[i]? = some (hostname, call)) (hcall : P call) (order : List Nat) :
    ∃ call', (d.run issuer order).calls[i]? = some (hostname, call') ∧ P call' := by
  induction order generalizing d call with
  | nil => exact ⟨call, hi, hcall⟩
  | cons j order ih =>
    obtain ⟨call', hi', hstep⟩ := exists_call_step issuer hi j
    refine ih (fun hkeeps => hkeep ((keeps_step issuer d j).trans hkeeps)) hi' ?_
    rcases hstep with ⟨-, rfl⟩ | ⟨-, hdoes⟩
    · exact hcall
    · exact hkeep (.refl d.cache) hcall hdoes

/-- Every caller is answered once it has made its steps. -/
theorem exists_remaining_run (issuer : Issuer) (hi : d.calls[i]? = some (hostname, call))
    (order : List Nat) : ∃ call', (d.run issuer order).calls[i]? = some (hostname, call') ∧
      call'.remaining ≤ call.remaining - order.count i := by
  induction order generalizing d call with
  | nil => exact ⟨call, hi, by simp⟩
  | cons j order ih =>
    obtain ⟨call', hi', hstep⟩ := exists_call_step issuer hi j
    obtain ⟨last, hlast, hle⟩ := ih hi'
    refine ⟨last, hlast, Nat.le_trans hle ?_⟩
    rcases hstep with ⟨hj, rfl⟩ | ⟨rfl, hdoes⟩
    · exact Nat.le_of_eq (by rw [List.count_cons_of_ne hj])
    · have hone := hdoes.remaining_le
      rw [List.count_cons_self]
      omega

/-! ### From the first step on -/

theorem calls_foldl_enter (d : CertificateDesk) (hostnames : List String) :
    hostnames.foldl enter d =
      ⟨d.cache, d.asked, d.calls ++ hostnames.map (·, .looking)⟩ := by
  induction hostnames generalizing d with
  | nil => simp
  | cons hostname hostnames ih => simp [ih, enter]

theorem opening_eq (hostnames : List String) :
    opening hostnames = ⟨.empty, 0, hostnames.map (·, .looking)⟩ := by
  rw [opening, calls_foldl_enter, List.nil_append]

theorem isSound_opening (issuer : Issuer) (hostnames : List String) :
    IsSound issuer (opening hostnames) := by
  rw [opening_eq]
  constructor
  · intro hostname c hc
    simp at hc
  · intro hostname call hcall
    obtain ⟨_, -, heq⟩ := List.mem_map.1 hcall
    cases heq
    trivial

/-- A caller that has ended with a refusal has left the cache as it was in each of its steps. -/
theorem cache_step_of_refused {order : List Nat} {cause : RouterError}
    (hlast : ((d.step issuer i).run issuer order).calls[i]? =
      some (hostname, .answered (.error cause))) : (d.step issuer i).cache = d.cache := by
  cases hi : d.calls[i]? with
  | none => rw [step_of_none hi]
  | some entry =>
    obtain ⟨own, call⟩ := entry
    obtain ⟨call', hi', hstep⟩ := exists_call_step issuer hi i
    obtain ⟨hne, -⟩ | ⟨-, hdoes⟩ := hstep
    · exact absurd rfl hne
    rcases hdoes.isServed_or with hserved | hsame
    · -- A caller that has been given a certificate ends with one.
      obtain ⟨last, hlast', hserved'⟩ := exists_call_run (P := CertificateCall.IsServed)
        (fun _ hcall hdoes => hcall.does hdoes) hi' (hserved.does hdoes) order
      rw [hlast] at hlast'
      cases hlast'
      exact hserved'.elim
    · exact hsame

/-- A caller that comes after the publication of a certificate is given that certificate, and none
of its steps reaches the issuer. -/
theorem exists_settled_run {c : Certificate} (issuer : Issuer)
    (hc : d.cache.get? hostname = some c) (hi : d.calls[i]? = some (hostname, .looking))
    (order : List Nat) :
    ∃ call, (d.run issuer order).calls[i]? = some (hostname, call) ∧ call.IsSettled c ∧
      ((d.run issuer order).step issuer i).asked = (d.run issuer order).asked := by
  obtain ⟨call, hcall, hsettled⟩ := exists_call_run (P := CertificateCall.IsSettled c)
    (fun hkeeps hcall hdoes => (hcall.does (hkeeps _ _ hc) hdoes).1) hi (.inl rfl) order
  refine ⟨call, hcall, hsettled, ?_⟩
  obtain ⟨cache', asked', call', hdoes, hstep⟩ := exists_does_of_call issuer hcall
  rw [hstep]
  exact (hsettled.does (keeps_run issuer d order _ _ hc) hdoes).2

/-- A step of a caller leaves the certificates of other host names as they are. -/
theorem get?_cache_step_of_ne (issuer : Issuer) (hi : d.calls[i]? = some (hostname, call))
    {other : String} (hother : other ≠ hostname) :
    (d.step issuer i).cache.get? other = d.cache.get? other := by
  obtain ⟨cache', asked', call', hdoes, hstep⟩ := exists_does_of_call issuer hi
  rw [hstep]
  exact hdoes.get?_of_ne hother

/-- Any number of callers, their steps in any order, at an issuer that may fail or answer
differently each time; those that have made no step yet are the later ones.

What is published for a host name is the first certificate that was handed to the cache for it,
which the issuer has issued, and it stays published. Callers that are answered with a certificate
are answered with this one. Callers that are answered with an error have had it from the issuer,
and none of their steps has changed the cache. A step for one host name leaves the certificates of
the others as they are. Callers that come later than the publication are given what is published
and reach the issuer in none of their steps. Whoever has made four steps is answered. -/
theorem certificates_of_run (issuer : Issuer) (hostnames : List String) (order : List Nat) :
    let start := opening hostnames
    let d := start.run issuer order
    (∀ hostname, d.cache.get? hostname = (start.handed issuer order).lookup hostname) ∧
    (∀ hostname c, d.cache.get? hostname = some c →
      (∃ n < d.asked, issuer n hostname = .ok c) ∧
      ∀ more, (d.run issuer more).cache.get? hostname = some c) ∧
    (∀ (i : Nat) hostname c, d.calls[i]? = some (hostname, .answered (.ok c)) →
      (start.handed issuer order).lookup hostname = some c) ∧
    (∀ (i : Nat) hostname cause, d.calls[i]? = some (hostname, .answered (.error cause)) →
      (∃ n < d.asked, issuer n hostname = .error cause) ∧
      ∀ before after, order = before ++ i :: after →
        ((start.run issuer before).step issuer i).cache = (start.run issuer before).cache) ∧
    (∀ (i : Nat) hostname call, d.calls[i]? = some (hostname, call) → ∀ other ≠ hostname,
      (d.step issuer i).cache.get? other = d.cache.get? other) ∧
    (∀ (i : Nat) hostname c, d.cache.get? hostname = some c →
      d.calls[i]? = some (hostname, .looking) → ∀ more, ∃ call,
        (d.run issuer more).calls[i]? = some (hostname, call) ∧ call.IsSettled c ∧
        ((d.run issuer more).step issuer i).asked = (d.run issuer more).asked) ∧
    ∀ (i : Nat) hostname, hostnames[i]? = some hostname → 4 ≤ order.count i →
      ∃ r, d.calls[i]? = some (hostname, .answered r) := by
  intro start d
  have hsound : IsSound issuer d := (isSound_opening issuer hostnames).run order
  have hcache (hostname : String) :
      d.cache.get? hostname = (start.handed issuer order).lookup hostname := by
    rw [get?_cache_run]
    simp [start, opening_eq]
  refine ⟨hcache, fun hostname c hc => ⟨hsound.issued hc, fun more =>
    keeps_run issuer d more _ _ hc⟩, ?_, ?_, ?_, ?_, ?_⟩
  · intro i hostname c hi
    rw [← hcache]
    exact hsound.calls (List.mem_of_getElem? hi)
  · intro i hostname cause hi
    refine ⟨hsound.calls (List.mem_of_getElem? hi), ?_⟩
    rintro before after rfl
    have hd : d = ((start.run issuer before).step issuer i).run issuer after := by
      simp only [d, run, List.foldl_append, List.foldl_cons]
    rw [hd] at hi
    exact cache_step_of_refused hi
  · intro i hostname call hi other hother
    exact get?_cache_step_of_ne issuer hi hother
  · intro i hostname c hc hi more
    exact exists_settled_run issuer hc hi more
  · intro i hostname hi hcount
    have hstart : start.calls[i]? = some (hostname, .looking) := by simp [start, opening_eq, hi]
    obtain ⟨call, hcall, hle⟩ := exists_remaining_run issuer hstart order
    obtain ⟨r, rfl⟩ := CertificateCall.exists_answered_of_remaining
      (Nat.le_zero.1 (Nat.le_trans hle (by simp only [CertificateCall.remaining]; omega)))
    exact ⟨r, hcall⟩

end CertificateDesk

end Gatehouse
