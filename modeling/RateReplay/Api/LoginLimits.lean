import RateReplay.Api.Accounts
import RateReplay.Lib.SlidingWindow

/-!
# Login budgets

The sliding-window limiter of `abuse.py` and the login route, which asks it twice: for the address
of the client and for the username as it was sent.  The account a request is about is found later,
by the canonical form of the username, so several spellings share an account and have a budget
each.

Digests of identifiers are a keyed hash, which is taken to tell identifiers apart.

## Main definitions

* `RateLimiter`, `RateLimiter.check` — the limiter, and one request to it.
* `admitLogin` — what the login route asks it.
* `admittedLogins` — the requests of a sequence that pass the limiter.
* `Charged` — what the limiter keeps of the requests it has let pass, by entry.
* `Tracks` — the same by identifier, as long as each has an entry of its own.

## Main results

* `Charged.check` — **one request: it passes while fewer than the limit still count.**
* `admittedLogins_budgeted` — **every spelling keeps the budget in every window.**
* `login_budget_iff` — **so does every account exactly when no two spellings of one are used.**
-/

namespace RateReplay

open List

variable {a b : String}

/-! ### The limiter -/

/-- `SlidingWindowRateLimiter`. -/
structure RateLimiter where
  digest : String → String
  limit : ℕ
  window : ℤ
  code : String
  message : String
  maximumIdentifiers : ℕ
  digest_injective : Function.Injective digest
  limit_pos : 1 ≤ limit
  window_pos : 0 < window
  maximumIdentifiers_pos : 1 ≤ maximumIdentifiers

/-- What a request over the limit is answered with, and the seconds to wait. -/
structure LimitExceeded where
  problem : ApiProblem
  retryAfter : ℤ
  deriving DecidableEq

/-- `_attempts`: the times of the requests that still count, by digest. -/
abbrev Attempts := Dict String (List ℤ)

/-- `_discard_expired`. -/
def discardExpired (cutoff : ℤ) (attempts : Attempts) : Attempts :=
  (attempts.mapValues fun _ times => expire cutoff times).deleteWhere fun _ times => times = []

namespace RateLimiter

variable (limiter : RateLimiter)

/-- `_overflow_digest`. -/
def overflowDigest : String := limiter.digest "overflow"

/-- The entry a digest is counted under: identifiers beyond the capacity share one. -/
def slot (attempts : Attempts) (digest : String) : String :=
  let overflowReserved : ℕ := if attempts.get? limiter.overflowDigest = none then 1 else 0
  if attempts.get? digest = none ∧
      limiter.maximumIdentifiers - overflowReserved ≤ attempts.entries.length then
    limiter.overflowDigest
  else digest

/-- `max(1, math.ceil((attempts[0] + window - now).total_seconds()))`. -/
def retryAfter (times : List ℤ) (now : ℤ) : ℤ :=
  max 1 (-((now - (times.headD now + limiter.window)) / 1000000))

/-- `check`. -/
def check (attempts : Attempts) (identifier : String) (now : ℤ) :
    Except LimitExceeded Unit × Attempts :=
  let cutoff := now - limiter.window
  let attempts := discardExpired cutoff attempts
  let digest := limiter.slot attempts (limiter.digest identifier)
  let times := expire cutoff (attempts.getD digest [])
  if limiter.limit ≤ times.length then
    (.error ⟨⟨429, limiter.code, limiter.message, []⟩, limiter.retryAfter times now⟩,
      attempts.set digest times)
  else (.ok (), attempts.set digest (times ++ [now]))

end RateLimiter

/-! ### The route -/

/-- A login request: the address of the client, and what it sends. -/
structure LoginRequest where
  client : String
  username : String
  password : String
  now : ℤ
  deriving DecidableEq

/-- The two questions of the login route to the limiter. -/
def admitLogin (limiter : RateLimiter) (attempts : Attempts) (request : LoginRequest) :
    Except LimitExceeded Unit × Attempts :=
  match limiter.check attempts ("client:" ++ request.client) request.now with
  | (.error e, attempts) => (.error e, attempts)
  | (.ok _, attempts) => limiter.check attempts ("principal:" ++ request.username) request.now

/-- The canonical name of the account whose password the request is verified against. -/
def LoginRequest.account (request : LoginRequest) : Option String :=
  match canonicalizeUsername request.username, validatePassword request.password with
  | .ok canonical, .ok _ => some canonical
  | _, _ => none

/-- The requests of a sequence that pass the limiter. -/
def admittedLogins (limiter : RateLimiter) : Attempts → List LoginRequest → List LoginRequest
  | _, [] => []
  | attempts, request :: requests =>
    match admitLogin limiter attempts request with
    | (.error _, attempts) => admittedLogins limiter attempts requests
    | (.ok _, attempts) => request :: admittedLogins limiter attempts requests

/-- The requests verified against an account in a window of the limiter's length. -/
def verifiedWithin (limiter : RateLimiter) (requests : List LoginRequest) (account : String)
    (start : ℤ) : List LoginRequest :=
  (admittedLogins limiter Dict.empty requests).filter fun request =>
    request.account = some account ∧ start ≤ request.now ∧ request.now < start + limiter.window

/-- The identifiers a request is counted under. -/
def LoginRequest.asks (request : LoginRequest) : List String :=
  ["client:" ++ request.client, "principal:" ++ request.username]

/-- The identifiers the limiter is asked about. -/
def identifiers (requests : List LoginRequest) : Finset String :=
  (requests.flatMap LoginRequest.asks).toFinset

/-! ### What the limiter keeps -/

/-- The times at which an identifier was let pass. -/
def timesOf (accepted : List (String × ℤ)) (identifier : String) : List ℤ :=
  (accepted.filter fun e => e.1 = identifier).map Prod.snd

theorem timesOf_append (accepted : List (String × ℤ)) (identifier other : String) (now : ℤ) :
    timesOf (accepted ++ [(identifier, now)]) other =
      if identifier = other then timesOf accepted other ++ [now] else timesOf accepted other := by
  by_cases h : identifier = other <;> simp [timesOf, h]

theorem length_timesOf (accepted : List (String × ℤ)) (identifier : String) :
    (timesOf accepted identifier).length = (accepted.map Prod.fst).count identifier := by
  rw [timesOf, length_map, count, countP_map, countP_eq_length_filter]
  rfl

theorem length_expire_le (cutoff : ℤ) (times : List ℤ) :
    (expire cutoff times).length ≤ times.length :=
  (dropWhile_sublist _).length_le

/-- What the limiter keeps of the requests it has let pass, by the entry each is charged to. -/
structure Charged (limiter : RateLimiter) (charges : List (String × ℤ)) (last : ℤ)
    (attempts : Attempts) : Prop where
  sorted : (charges.map Prod.snd).Pairwise (· ≤ ·)
  before : ∀ e ∈ charges, e.2 ≤ last
  kept : ∀ digest, attempts.getD digest [] =
    expire (last - limiter.window) (timesOf charges digest)
  budgeted : ∀ digest, Budgeted limiter.limit limiter.window (timesOf charges digest)

/-- What the limiter keeps of the requests it has let pass, when asked about few identifiers. -/
structure Tracks (limiter : RateLimiter) (ids : Finset String) (accepted : List (String × ℤ))
    (last : ℤ) (attempts : Attempts) : Prop where
  sorted : (accepted.map Prod.snd).Pairwise (· ≤ ·)
  before : ∀ e ∈ accepted, e.2 ≤ last
  kept : ∀ identifier, attempts.getD (limiter.digest identifier) [] =
    expire (last - limiter.window) (timesOf accepted identifier)
  keys : ∀ digest ∈ attempts.keys, ∃ identifier ∈ ids, digest = limiter.digest identifier
  budgeted : ∀ identifier, Budgeted limiter.limit limiter.window (timesOf accepted identifier)

section Tracks

variable {limiter : RateLimiter} {ids : Finset String} {accepted charges : List (String × ℤ)}
  {last now : ℤ} {attempts : Attempts} {identifier digest : String}

theorem tracks_empty (limiter : RateLimiter) (ids : Finset String) (last : ℤ) :
    Tracks limiter ids [] last Dict.empty where
  sorted := List.Pairwise.nil
  before e he := by cases he
  kept identifier := rfl
  keys digest h := by cases h
  budgeted identifier := budgeted_nil

theorem Charged.timesOf_sorted (h : Charged limiter charges last attempts) (digest : String) :
    (timesOf charges digest).Pairwise (· ≤ ·) :=
  h.sorted.sublist (filter_sublist.map Prod.snd)

theorem getD_discardExpired (cutoff : ℤ) (attempts : Attempts) (digest : String) :
    (discardExpired cutoff attempts).getD digest [] = expire cutoff (attempts.getD digest []) := by
  simp only [discardExpired, Dict.getD, Dict.get?_deleteWhere, Dict.get?_mapValues]
  cases attempts.get? digest with
  | none => rfl
  | some times =>
    by_cases hempty : expire cutoff times = []
    · simp [Option.filter, hempty]
    · simp [Option.filter, hempty]

theorem mem_keys_discardExpired {cutoff : ℤ}
    (h : digest ∈ (discardExpired cutoff attempts).keys) : digest ∈ attempts.keys := by
  obtain ⟨times, htimes⟩ := Dict.mem_keys_iff.mp h
  have hmapped := Dict.get?_of_deleteWhere htimes
  rw [Dict.get?_mapValues] at hmapped
  obtain ⟨times', htimes', -⟩ := Option.map_eq_some_iff.mp hmapped
  exact Dict.mem_keys_iff.mpr ⟨times', htimes'⟩

/-- Time passes. -/
theorem Charged.discard (h : Charged limiter charges last attempts) (hnow : last ≤ now) :
    Charged limiter charges now (discardExpired (now - limiter.window) attempts) where
  sorted := h.sorted
  before e he := (h.before e he).trans hnow
  kept digest := by
    rw [getD_discardExpired, h.kept, expire_expire (h.timesOf_sorted digest) (by omega)]
  budgeted := h.budgeted

/-- One entry is replaced. -/
theorem Charged.set (h : Charged limiter charges now attempts) {times : List ℤ}
    {charges' : List (String × ℤ)}
    (hsrt : (charges'.map Prod.snd).Pairwise (· ≤ ·)) (hpre : ∀ e ∈ charges', e.2 ≤ now)
    (htimes : times = expire (now - limiter.window) (timesOf charges' digest))
    (hoth : ∀ other, other ≠ digest → timesOf charges' other = timesOf charges other)
    (hbud : Budgeted limiter.limit limiter.window (timesOf charges' digest)) :
    Charged limiter charges' now (attempts.set digest times) where
  sorted := hsrt
  before := hpre
  kept other := by
    by_cases heq : other = digest
    · subst heq
      rw [Dict.getD, Dict.get?_set, if_pos rfl, Option.getD_some, htimes]
    · rw [Dict.getD, Dict.get?_set_of_ne _ _ heq, hoth other heq]
      exact h.kept other
  budgeted other := by
    by_cases heq : other = digest
    · exact heq ▸ hbud
    · rw [hoth other heq]
      exact h.budgeted other

/-- **One request to the limiter**: it passes while fewer than the limit still count under the
entry it is charged to. -/
theorem Charged.check (h : Charged limiter charges last attempts) (hnow : last ≤ now)
    (hslot : limiter.slot (discardExpired (now - limiter.window) attempts)
      (limiter.digest identifier) = digest) :
    if (expire (now - limiter.window) (timesOf charges digest)).length < limiter.limit then
      (limiter.check attempts identifier now).1 = .ok () ∧
        Charged limiter (charges ++ [(digest, now)]) now (limiter.check attempts identifier now).2
    else (∃ e, (limiter.check attempts identifier now).1 = .error e) ∧
      Charged limiter charges now (limiter.check attempts identifier now).2 := by
  have hdiscard := h.discard hnow
  have hsrt := h.timesOf_sorted digest
  have htimes : expire (now - limiter.window)
      ((discardExpired (now - limiter.window) attempts).getD digest []) =
        expire (now - limiter.window) (timesOf charges digest) := by
    rw [hdiscard.kept, expire_expire hsrt le_rfl]
  split_ifs with hbelow
  · -- the attempt is charged to its slot, behind what is left of the window
    have hcheck : limiter.check attempts identifier now = (.ok (),
        (discardExpired (now - limiter.window) attempts).set digest
          (expire (now - limiter.window) (timesOf charges digest) ++ [now])) := by
      rw [RateLimiter.check]
      simp only [hslot, htimes]
      rw [if_neg (by omega)]
    rw [hcheck]
    have hwin := limiter.window_pos
    refine ⟨rfl, hdiscard.set ?_ ?_ ?_ ?_ ?_⟩
    · rw [map_append, pairwise_append]
      refine ⟨h.sorted, pairwise_singleton _ _, ?_⟩
      intro x hx y hy
      obtain ⟨e, he, rfl⟩ := mem_map.mp hx
      rw [mem_singleton.mp hy]
      exact hdiscard.before e he
    · intro e he
      rcases mem_append.mp he with hold | hnew
      · exact hdiscard.before e hold
      · rw [mem_singleton.mp hnew]
    · rw [timesOf_append, if_pos rfl, expire_append_singleton (by omega)]
    · intro other hne
      rw [timesOf_append, if_neg (Ne.symm hne)]
    · rw [timesOf_append, if_pos rfl]
      exact Budgeted.admit (h.budgeted digest) hsrt hbelow
  · have hcheck : limiter.check attempts identifier now =
        (.error ⟨⟨429, limiter.code, limiter.message, []⟩, limiter.retryAfter
            (expire (now - limiter.window) (timesOf charges digest)) now⟩,
          (discardExpired (now - limiter.window) attempts).set digest
            (expire (now - limiter.window) (timesOf charges digest))) := by
      rw [RateLimiter.check]
      simp only [hslot, htimes]
      rw [if_pos (by omega)]
    rw [hcheck]
    exact ⟨⟨_, rfl⟩, hdiscard.set h.sorted hdiscard.before rfl (fun _ _ => rfl)
      (h.budgeted digest)⟩

/-- A request adds no entry but the one it is charged to. -/
theorem mem_keys_check (h : digest ∈ (limiter.check attempts identifier now).2.keys) :
    digest = limiter.slot (discardExpired (now - limiter.window) attempts)
      (limiter.digest identifier) ∨ digest ∈ attempts.keys := by
  rw [RateLimiter.check] at h
  split at h
  all_goals
    rcases Dict.mem_keys_set.mp h with heq | hold
    · exact .inl heq
    · exact .inr (mem_keys_discardExpired hold)

theorem timesOf_map_digest (accepted : List (String × ℤ)) (identifier : String) :
    timesOf (accepted.map (Prod.map limiter.digest id)) (limiter.digest identifier) =
      timesOf accepted identifier := by
  simp [timesOf, filter_map, Function.comp_def, limiter.digest_injective.eq_iff]

/-- The entries of few identifiers are their own. -/
theorem Tracks.charged (h : Tracks limiter ids accepted last attempts) :
    Charged limiter (accepted.map (Prod.map limiter.digest id)) last attempts := by
  have hnone : ∀ digest, (∀ identifier, digest ≠ limiter.digest identifier) →
      timesOf (accepted.map (Prod.map limiter.digest id)) digest = [] := by
    intro digest hne
    simp only [timesOf, map_eq_nil_iff, filter_eq_nil_iff, mem_map]
    rintro _ ⟨e, -, rfl⟩
    simpa using Ne.symm (hne e.1)
  refine ⟨by simpa [Function.comp_def] using h.sorted, ?_, fun digest => ?_, fun digest => ?_⟩
  · intro _ hmem
    obtain ⟨e, he, rfl⟩ := mem_map.mp hmem
    exact h.before e he
  all_goals by_cases hdigest : ∃ identifier, digest = limiter.digest identifier
  · obtain ⟨identifier, rfl⟩ := hdigest
    rw [timesOf_map_digest]
    exact h.kept identifier
  · have hget : attempts.get? digest = none := by
      refine Dict.get?_eq_none.mpr fun hmem => ?_
      obtain ⟨identifier, -, heq⟩ := h.keys digest hmem
      exact hdigest ⟨identifier, heq⟩
    rw [hnone digest (by simpa using hdigest), Dict.getD, hget]
    rfl
  · obtain ⟨identifier, rfl⟩ := hdigest
    rw [timesOf_map_digest]
    exact h.budgeted identifier
  · rw [hnone digest (by simpa using hdigest)]
    exact budgeted_nil

theorem Charged.tracks
    (h : Charged limiter (accepted.map (Prod.map limiter.digest id)) now attempts)
    (hkeys : ∀ digest ∈ attempts.keys, ∃ identifier ∈ ids, digest = limiter.digest identifier) :
    Tracks limiter ids accepted now attempts where
  sorted := by simpa [Function.comp_def] using h.sorted
  before e he := h.before (Prod.map limiter.digest id e) (mem_map_of_mem he)
  kept identifier := by rw [h.kept, timesOf_map_digest]
  keys := hkeys
  budgeted identifier := by
    have hbudgeted := h.budgeted (limiter.digest identifier)
    rwa [timesOf_map_digest] at hbudgeted

/-- Fewer identifiers than the capacity never share an entry. -/
theorem slot_eq_digest
    (hkeys : ∀ digest ∈ attempts.keys, ∃ identifier ∈ ids, digest = limiter.digest identifier)
    (hid : identifier ∈ ids) (hcap : ids.card < limiter.maximumIdentifiers) :
    limiter.slot attempts (limiter.digest identifier) = limiter.digest identifier := by
  rw [RateLimiter.slot, if_neg]
  rintro ⟨hnew, hfull⟩
  -- every entry belongs to another one of the identifiers
  have hsubset : attempts.keys.toFinset ⊆ (ids.erase identifier).image limiter.digest := by
    intro digest hdigest
    rw [mem_toFinset] at hdigest
    obtain ⟨other, hoth, rfl⟩ := hkeys digest hdigest
    refine Finset.mem_image_of_mem _ (Finset.mem_erase.mpr ⟨?_, hoth⟩)
    rintro rfl
    exact Dict.get?_eq_none.mp hnew hdigest
  have hcount : attempts.entries.length ≤ ids.card - 1 := by
    calc attempts.entries.length = attempts.keys.length := by rw [Dict.keys, length_map]
      _ = attempts.keys.toFinset.card := (toFinset_card_of_nodup attempts.nodup).symm
      _ ≤ ((ids.erase identifier).image limiter.digest).card := Finset.card_le_card hsubset
      _ ≤ (ids.erase identifier).card := Finset.card_image_le
      _ = ids.card - 1 := Finset.card_erase_of_mem hid
  have hpos : 0 < ids.card := Finset.card_pos.mpr ⟨identifier, hid⟩
  split_ifs at hfull <;> omega

/-- **One request about one of few identifiers**: it passes while fewer than the limit of its own
still count. -/
theorem Tracks.check (h : Tracks limiter ids accepted last attempts) (hnow : last ≤ now)
    (hid : identifier ∈ ids) (hcap : ids.card < limiter.maximumIdentifiers) :
    if (expire (now - limiter.window) (timesOf accepted identifier)).length < limiter.limit then
      (limiter.check attempts identifier now).1 = .ok () ∧
        Tracks limiter ids (accepted ++ [(identifier, now)]) now
          (limiter.check attempts identifier now).2
    else (∃ e, (limiter.check attempts identifier now).1 = .error e) ∧
      Tracks limiter ids accepted now (limiter.check attempts identifier now).2 := by
  have hslot : limiter.slot (discardExpired (now - limiter.window) attempts)
      (limiter.digest identifier) = limiter.digest identifier :=
    slot_eq_digest (fun digest hmem => h.keys digest (mem_keys_discardExpired hmem)) hid hcap
  have hkeys : ∀ digest ∈ (limiter.check attempts identifier now).2.keys,
      ∃ identifier ∈ ids, digest = limiter.digest identifier := by
    intro digest hmem
    rcases mem_keys_check hmem with heq | hold
    · exact ⟨identifier, hid, heq.trans hslot⟩
    · exact h.keys digest hold
  have hcheck := h.charged.check hnow hslot
  rw [timesOf_map_digest] at hcheck
  split_ifs at hcheck ⊢ with hbelow
  · refine ⟨hcheck.1, Charged.tracks ?_ hkeys⟩
    simpa using hcheck.2
  · exact ⟨hcheck.1, hcheck.2.tracks hkeys⟩

/-- **One login request**: it is counted under both identifiers and passes, or one of them has
used up its limit. -/
theorem Tracks.admit {request : LoginRequest} (h : Tracks limiter ids accepted last attempts)
    (hnow : last ≤ request.now) (hids : ∀ identifier ∈ request.asks, identifier ∈ ids)
    (hcap : ids.card < limiter.maximumIdentifiers) :
    ∃ accepted', Tracks limiter ids accepted' request.now (admitLogin limiter attempts request).2 ∧
      ((admitLogin limiter attempts request).1 = .ok () ∧
          accepted' = accepted ++ [("client:" ++ request.client, request.now)] ++
            [("principal:" ++ request.username, request.now)] ∨
        (∃ e, (admitLogin limiter attempts request).1 = .error e) ∧
          (accepted' = accepted ∧
              limiter.limit ≤ (timesOf accepted ("client:" ++ request.client)).length ∨
            accepted' = accepted ++ [("client:" ++ request.client, request.now)] ∧
              limiter.limit ≤
                (timesOf accepted' ("principal:" ++ request.username)).length)) := by
  have hclient := h.check hnow (hids ("client:" ++ request.client) (by simp [LoginRequest.asks]))
    hcap
  unfold admitLogin
  generalize limiter.check attempts ("client:" ++ request.client) request.now = first at hclient ⊢
  obtain ⟨outcome, attempts₁⟩ := first
  split_ifs at hclient with hbelow
  · obtain ⟨rfl, htracks⟩ := hclient
    have hprin := htracks.check le_rfl
      (hids ("principal:" ++ request.username) (by simp [LoginRequest.asks])) hcap
    dsimp only
    split_ifs at hprin with hbelow'
    · exact ⟨_, hprin.2, .inl ⟨hprin.1, rfl⟩⟩
    · have hlength := length_expire_le (request.now - limiter.window) (timesOf
        (accepted ++ [("client:" ++ request.client, request.now)])
        ("principal:" ++ request.username))
      exact ⟨_, hprin.2, .inr ⟨hprin.1, .inr ⟨rfl, by omega⟩⟩⟩
  · obtain ⟨⟨e, rfl⟩, htracks⟩ := hclient
    have hlength := length_expire_le (request.now - limiter.window)
      (timesOf accepted ("client:" ++ request.client))
    exact ⟨accepted, htracks, .inr ⟨⟨e, rfl⟩, .inl ⟨rfl, by omega⟩⟩⟩

end Tracks

/-! ### Whole sequences of requests -/

section Runs

variable {limiter : RateLimiter} {ids : Finset String} {request : LoginRequest}
  {requests : List LoginRequest}

theorem admittedLogins_cons (limiter : RateLimiter) (attempts : Attempts)
    (request : LoginRequest) (requests : List LoginRequest) :
    admittedLogins limiter attempts (request :: requests) =
      (if (admitLogin limiter attempts request).1 = .ok () then [request] else []) ++
        admittedLogins limiter (admitLogin limiter attempts request).2 requests := by
  rw [admittedLogins]
  obtain ⟨_ | _, attempts'⟩ := admitLogin limiter attempts request <;> rfl

theorem admittedLogins_sublist (requests : List LoginRequest) :
    ∀ attempts, (admittedLogins limiter attempts requests).Sublist requests := by
  induction requests with
  | nil => exact fun _ => List.Sublist.slnil
  | cons request requests ih =>
    intro attempts
    rw [admittedLogins]
    split
    · exact (ih _).cons request
    · exact (ih _).cons_cons request

/-- The limiter has counted every admitted request under its identifiers, within the budget. -/
theorem admittedLogins_counted (hcap : ids.card < limiter.maximumIdentifiers)
    (requests : List LoginRequest) : ∀ {accepted last attempts},
    Tracks limiter ids accepted last attempts →
    (∀ request ∈ requests, last ≤ request.now) → requests.Pairwise (fun a b => a.now ≤ b.now) →
    (∀ identifier ∈ requests.flatMap LoginRequest.asks, identifier ∈ ids) →
    ∃ counted : List (String × ℤ),
      (∀ identifier, Budgeted limiter.limit limiter.window (timesOf counted identifier)) ∧
      ∀ identifier, (timesOf accepted identifier ++
        ((admittedLogins limiter attempts requests).filter (identifier ∈ ·.asks)).map
          LoginRequest.now).Sublist (timesOf counted identifier) := by
  induction requests with
  | nil =>
    intro accepted last attempts h _ _ _
    exact ⟨accepted, h.budgeted, fun identifier => by simp [admittedLogins]⟩
  | cons request requests ih =>
    intro accepted last attempts h hlast hsrt hids
    rw [pairwise_cons] at hsrt
    obtain ⟨accepted', htracks, hcases⟩ := h.admit (hlast request mem_cons_self)
      (fun identifier hmem => hids identifier (mem_flatMap.mpr
        ⟨request, mem_cons_self, hmem⟩)) hcap
    obtain ⟨counted, hbud, hsub⟩ := ih htracks hsrt.1 hsrt.2
      (fun identifier hmem => hids identifier (by
        rw [flatMap_cons]
        exact mem_append_right _ hmem))
    refine ⟨counted, hbud, fun identifier => List.Sublist.trans ?_ (hsub identifier)⟩
    rcases hcases with ⟨hok, rfl⟩ | ⟨⟨e, herror⟩, hcount⟩
    · rw [admittedLogins_cons, if_pos hok, singleton_append, timesOf_append, timesOf_append]
      by_cases hasked : identifier ∈ request.asks
      · rw [filter_cons_of_pos (by simpa using hasked), map_cons]
        rcases mem_cons.mp hasked with rfl | hprin
        · rw [if_pos rfl]
          split_ifs <;> simp
        · rw [mem_singleton.mp hprin, if_pos rfl]
          split_ifs <;> simp
      · rw [filter_cons_of_neg (by simpa using hasked)]
        refine List.Sublist.append_right ?_ _
        split_ifs <;> simp
    · rw [admittedLogins_cons, herror, if_neg (by simp), nil_append]
      refine List.Sublist.append_right ?_ _
      rcases hcount with ⟨rfl, -⟩ | ⟨rfl, -⟩
      · exact List.Sublist.refl _
      · rw [timesOf_append]
        split_ifs <;> simp

/-- No request comes before the first of an ordered sequence. -/
theorem head_now_le (hsrt : (request :: requests).Pairwise (fun a b => a.now ≤ b.now)) :
    ∀ other ∈ request :: requests, request.now ≤ other.now := by
  intro other hoth
  rcases mem_cons.mp hoth with rfl | hmem
  · exact le_rfl
  · exact (pairwise_cons.mp hsrt).1 other hmem

/-- **Every identifier keeps the budget** in every window. -/
theorem admittedLogins_budgeted (hsrt : requests.Pairwise (fun a b => a.now ≤ b.now))
    (hcap : (identifiers requests).card < limiter.maximumIdentifiers) (identifier : String) :
    Budgeted limiter.limit limiter.window
      (((admittedLogins limiter Dict.empty requests).filter (identifier ∈ ·.asks)).map
        LoginRequest.now) := by
  cases requests with
  | nil => exact budgeted_nil
  | cons request requests =>
    obtain ⟨counted, hbud, hsub⟩ := admittedLogins_counted hcap (request :: requests)
      (tracks_empty limiter _ request.now) (head_now_le hsrt) hsrt
      (fun identifier hmem => mem_toFinset.mpr hmem)
    intro start
    exact ((hsub identifier).filter _).length_le.trans (hbud _ start)

/-- An account whose requests all share an identifier keeps the budget. -/
theorem verifiedWithin_le_of_shared (hsrt : requests.Pairwise (fun a b => a.now ≤ b.now))
    (hcap : (identifiers requests).card < limiter.maximumIdentifiers) {account : String}
    (identifier : String)
    (hshared : ∀ request ∈ requests, request.account = some account → identifier ∈ request.asks)
    (start : ℤ) : (verifiedWithin limiter requests account start).length ≤ limiter.limit := by
  refine le_trans ?_ (admittedLogins_budgeted hsrt hcap identifier start)
  rw [filter_map, length_map, filter_filter, verifiedWithin,
    ← countP_eq_length_filter, ← countP_eq_length_filter]
  refine countP_mono_left fun request hmem hver => ?_
  simp only [decide_eq_true_eq] at hver
  have hasked := hshared request ((admittedLogins_sublist requests _).mem hmem) hver.1
  simpa [hasked] using hver.2

/-- Requests that use no identifier beyond its limit all pass. -/
theorem admittedLogins_eq_self (hcap : ids.card < limiter.maximumIdentifiers)
    (requests : List LoginRequest) : ∀ {accepted last attempts},
    Tracks limiter ids accepted last attempts →
    (∀ request ∈ requests, last ≤ request.now) → requests.Pairwise (fun a b => a.now ≤ b.now) →
    (∀ identifier ∈ requests.flatMap LoginRequest.asks, identifier ∈ ids) →
    (∀ identifier, (accepted.map Prod.fst ++ requests.flatMap LoginRequest.asks).count identifier
      ≤ limiter.limit) →
    admittedLogins limiter attempts requests = requests := by
  induction requests with
  | nil =>
    intro accepted last attempts _ _ _ _ _
    rfl
  | cons request requests ih =>
    intro accepted last attempts h hlast hsrt hids hcount
    rw [pairwise_cons] at hsrt
    obtain ⟨accepted', htracks, hcases⟩ := h.admit (hlast request mem_cons_self)
      (fun identifier hmem => hids identifier (mem_flatMap.mpr
        ⟨request, mem_cons_self, hmem⟩)) hcap
    rcases hcases with ⟨hok, rfl⟩ | ⟨⟨e, herror⟩, ⟨rfl, hfull⟩ | ⟨rfl, hfull⟩⟩
    · rw [admittedLogins_cons, if_pos hok, singleton_append, ih htracks hsrt.1 hsrt.2
        (fun identifier hmem => hids identifier (by
          rw [flatMap_cons]
          exact mem_append_right _ hmem))]
      intro identifier
      have := hcount identifier
      simpa [LoginRequest.asks, append_assoc] using this
    · -- the client cannot have used up its limit, as this request is still to be counted
      have := hcount ("client:" ++ request.client)
      rw [length_timesOf] at hfull
      simp only [flatMap_cons, LoginRequest.asks, count_append, count_cons,
        count_nil, beq_self_eq_true, if_true] at this
      omega
    · have := hcount ("principal:" ++ request.username)
      rw [length_timesOf] at hfull
      simp only [flatMap_cons, LoginRequest.asks, count_append, count_cons,
        count_nil, beq_self_eq_true, if_true, map_append, map_cons,
        map_nil] at this hfull
      omega

end Runs

/-! ### Spellings of an account -/

/-- Every account keeps the limiter's budget, on requests with usernames from a set. -/
def LoginBudget (limiter : RateLimiter) (spellings : Set String) : Prop :=
  ∀ requests : List LoginRequest, (∀ request ∈ requests, request.username ∈ spellings) →
    requests.Pairwise (fun a b => a.now ≤ b.now) →
    (identifiers requests).card < limiter.maximumIdentifiers →
    ∀ account start, (verifiedWithin limiter requests account start).length ≤ limiter.limit

/-- No two usernames of a set have the same canonical form. -/
def OneSpelling (spellings : Set String) : Prop :=
  ∀ a ∈ spellings, ∀ b ∈ spellings, ∀ canonical, canonicalizeUsername a = .ok canonical →
    canonicalizeUsername b = .ok canonical → a = b

theorem account_eq_some {request : LoginRequest} {account : String}
    (h : request.account = some account) : canonicalizeUsername request.username = .ok account := by
  unfold LoginRequest.account at h
  split at h
  · rename_i canonical _ hname _
    rw [hname, Option.some.inj h]
  · cases h

theorem client_ne_principal (client username : String) :
    "client:" ++ client ≠ "principal:" ++ username := by
  intro h
  have := congrArg String.toList h
  simp at this

theorem login_budget_of_one_spelling (limiter : RateLimiter) {spellings : Set String}
    (h : OneSpelling spellings) : LoginBudget limiter spellings := by
  intro requests hspelled hsrt hcap account start
  by_cases hsome : ∃ request ∈ requests, request.account = some account
  · obtain ⟨request, hmem, hacc⟩ := hsome
    refine verifiedWithin_le_of_shared hsrt hcap ("principal:" ++ request.username) ?_ start
    intro other hoth hacc'
    rw [h _ (hspelled request hmem) _ (hspelled other hoth) account (account_eq_some hacc)
      (account_eq_some hacc')]
    simp [LoginRequest.asks]
  · refine verifiedWithin_le_of_shared hsrt hcap "" ?_ start
    intro other hoth hacc'
    exact absurd ⟨other, hoth, hacc'⟩ hsome

/-- Two clients and two usernames are four identifiers. -/
theorem four_le_card_identifiers {requests : List LoginRequest} {a b c d : LoginRequest}
    (ha : a ∈ requests) (hb : b ∈ requests) (hc : c ∈ requests) (hd : d ∈ requests)
    (hclient : a.client ≠ b.client) (husername : c.username ≠ d.username) :
    4 ≤ (identifiers requests).card := by
  have hmem : ∀ request ∈ requests, "client:" ++ request.client ∈ identifiers requests ∧
      "principal:" ++ request.username ∈ identifiers requests := by
    intro request hreq
    constructor <;>
      exact mem_toFinset.mpr
        (mem_flatMap.mpr ⟨request, hreq, by simp [LoginRequest.asks]⟩)
  have hnodup : ["client:" ++ a.client, "client:" ++ b.client, "principal:" ++ c.username,
      "principal:" ++ d.username].Nodup := by
    have h₁ : "client:" ++ a.client ≠ "client:" ++ b.client := by simpa using hclient
    have h₂ : "principal:" ++ c.username ≠ "principal:" ++ d.username := by simpa using husername
    simp only [nodup_cons, mem_cons, not_mem_nil, or_false, not_or]
    exact ⟨⟨h₁, client_ne_principal _ _, client_ne_principal _ _⟩,
      ⟨client_ne_principal _ _, client_ne_principal _ _⟩, h₂, not_false, nodup_nil⟩
  rw [← show _ = 4 from toFinset_card_of_nodup hnodup]
  refine Finset.card_le_card fun identifier hidentifier => ?_
  rw [mem_toFinset] at hidentifier
  simp only [mem_cons, not_mem_nil, or_false] at hidentifier
  rcases hidentifier with rfl | rfl | rfl | rfl
  · exact (hmem a ha).1
  · exact (hmem b hb).1
  · exact (hmem c hc).2
  · exact (hmem d hd).2

/-- Without room for four identifiers, all requests share their client or their username. -/
theorem login_budget_of_small_capacity {limiter : RateLimiter} (spellings : Set String)
    (h : limiter.maximumIdentifiers ≤ 4) : LoginBudget limiter spellings := by
  intro requests _ hsrt hcap account start
  cases hrequests : requests with
  | nil => exact Nat.zero_le _
  | cons request others =>
    rw [← hrequests]
    have hmem : request ∈ requests := hrequests ▸ mem_cons_self
    by_cases hclient : ∀ other ∈ requests, other.client = request.client
    · refine verifiedWithin_le_of_shared hsrt hcap ("client:" ++ request.client) ?_ start
      intro other hoth _
      simp [LoginRequest.asks, hclient other hoth]
    · refine verifiedWithin_le_of_shared hsrt hcap ("principal:" ++ request.username) ?_
        start
      intro other hoth _
      by_contra hasked
      have husername : other.username ≠ request.username := by
        intro heq
        exact hasked (by simp [LoginRequest.asks, heq])
      push Not at hclient
      obtain ⟨third, hthird, hne⟩ := hclient
      have := four_le_card_identifiers hthird hmem hoth hmem hne husername
      omega

/-- A request at time zero with a password of allowed length. -/
def guess (client username : String) : LoginRequest := ⟨client, username, "password-123", 0⟩

theorem guess_account {client username canonical : String}
    (h : canonicalizeUsername username = .ok canonical) :
    (guess client username).account = some canonical := by
  have hpassword : validatePassword "password-123" = .ok () := by decide
  simp only [LoginRequest.account, guess, h, hpassword]

/-- Guesses up to the limit with one spelling, and one more with another. -/
def spelledGuesses (limit : ℕ) (a b : String) : List LoginRequest :=
  List.replicate limit (guess "192.0.2.1" a) ++ [guess "192.0.2.2" b]

theorem mem_spelledGuesses {limit : ℕ} {request : LoginRequest}
    (h : request ∈ spelledGuesses limit a b) :
    request = guess "192.0.2.1" a ∨ request = guess "192.0.2.2" b := by
  rcases mem_append.mp h with hleft | hright
  · exact .inl (eq_of_mem_replicate hleft)
  · exact .inr (mem_singleton.mp hright)

theorem spelledGuesses_sorted (limit : ℕ) (a b : String) :
    (spelledGuesses limit a b).Pairwise (fun x y => x.now ≤ y.now) := by
  have hzero : ∀ x ∈ spelledGuesses limit a b, x.now = 0 := by
    intro x hx
    rcases mem_spelledGuesses hx with rfl | rfl <;> rfl
  exact pairwise_of_forall_mem_list fun x hx y hy => by rw [hzero x hx, hzero y hy]

theorem card_identifiers_spelledGuesses (limit : ℕ) (a b : String) :
    (identifiers (spelledGuesses limit a b)).card ≤ 4 := by
  have hsubset : identifiers (spelledGuesses limit a b) ⊆
      ((guess "192.0.2.1" a).asks ++ (guess "192.0.2.2" b).asks).toFinset := by
    intro identifier hidentifier
    obtain ⟨request, hreq, hasked⟩ := mem_flatMap.mp (mem_toFinset.mp hidentifier)
    rw [mem_toFinset, mem_append]
    rcases mem_spelledGuesses hreq with rfl | rfl
    · exact .inl hasked
    · exact .inr hasked
  exact (Finset.card_le_card hsubset).trans (toFinset_card_le _)

theorem count_spelledGuesses_le {limit : ℕ} (hlimit : 1 ≤ limit) (hne : a ≠ b) (identifier : String)
    : ((spelledGuesses limit a b).flatMap LoginRequest.asks).count identifier ≤ limit := by
  have hnodup : ((guess "192.0.2.1" a).asks ++ (guess "192.0.2.2" b).asks).Nodup := by
    have h₁ : "principal:" ++ a ≠ "principal:" ++ b := by simpa using hne
    have h₂ := client_ne_principal
    simp only [LoginRequest.asks, guess, cons_append, nil_append, nodup_cons,
      mem_cons, not_mem_nil, or_false, not_or]
    exact ⟨⟨h₂ _ _, by decide, h₂ _ _⟩, ⟨(h₂ _ _).symm, h₁⟩, h₂ _ _, not_false, nodup_nil⟩
  have hone := nodup_iff_count_le_one.mp hnodup identifier
  rw [count_append] at hone
  rw [spelledGuesses, flatMap_append, count_append, flatMap_singleton,
    count_flatMap, map_replicate, sum_replicate, smul_eq_mul]
  simp only [Function.comp_apply]
  -- an identifier belongs to at most one of the two kinds of request, once
  generalize (guess "192.0.2.1" a).asks.count identifier = m at hone ⊢
  generalize (guess "192.0.2.2" b).asks.count identifier = n at hone ⊢
  obtain ⟨rfl, hn⟩ | ⟨rfl, rfl⟩ : (m = 0 ∧ n ≤ 1) ∨ (m = 1 ∧ n = 0) := by omega
  · omega
  · omega

/-- **Two spellings of one account exceed its budget.** -/
theorem length_verifiedWithin_spelledGuesses {limiter : RateLimiter}
    (hcap : 4 < limiter.maximumIdentifiers) {canonical : String} (hne : a ≠ b)
    (ha : canonicalizeUsername a = .ok canonical) (hb : canonicalizeUsername b = .ok canonical) :
    (verifiedWithin limiter (spelledGuesses limiter.limit a b) canonical 0).length =
      limiter.limit + 1 := by
  have hadm : admittedLogins limiter Dict.empty (spelledGuesses limiter.limit a b) =
      spelledGuesses limiter.limit a b := by
    refine admittedLogins_eq_self ((card_identifiers_spelledGuesses _ a b).trans_lt hcap) _
      (tracks_empty limiter _ 0) ?_ (spelledGuesses_sorted _ a b)
      (fun identifier hmem => mem_toFinset.mpr hmem)
      (count_spelledGuesses_le limiter.limit_pos hne)
    intro request hreq
    rcases mem_spelledGuesses hreq with rfl | rfl <;> exact le_rfl
  rw [verifiedWithin, hadm, filter_eq_self.mpr]
  · rw [spelledGuesses, length_append, length_replicate, length_singleton]
  · intro request hreq
    have hwin := limiter.window_pos
    rcases mem_spelledGuesses hreq with rfl | rfl
    · simpa [guess_account ha, show (guess "192.0.2.1" a).now = 0 from rfl] using hwin
    · simpa [guess_account hb, show (guess "192.0.2.2" b).now = 0 from rfl] using hwin

/-- **Every account keeps the budget exactly when no two spellings of one are used**, unless the
limiter has no room for two clients and two usernames. -/
theorem login_budget_iff (limiter : RateLimiter) (spellings : Set String) :
    LoginBudget limiter spellings ↔
      limiter.maximumIdentifiers ≤ 4 ∨ OneSpelling spellings := by
  constructor
  · intro hbudget
    by_contra hneither
    obtain ⟨hcapacity, hspelling⟩ := not_or.mp hneither
    unfold OneSpelling at hspelling
    push Not at hspelling
    obtain ⟨a, ha, b, hb, canonical, hcanonical, hcanonical', hne⟩ := hspelling
    have hcapacity' : 4 < limiter.maximumIdentifiers := by omega
    have hle := hbudget (spelledGuesses limiter.limit a b) (by
        intro request hrequest
        rcases mem_spelledGuesses hrequest with rfl | rfl
        · exact ha
        · exact hb) (spelledGuesses_sorted _ a b)
      ((card_identifiers_spelledGuesses _ a b).trans_lt hcapacity') canonical 0
    rw [length_verifiedWithin_spelledGuesses hcapacity' hne hcanonical hcanonical'] at hle
    omega
  · rintro (hsmall | hone)
    · exact login_budget_of_small_capacity spellings hsmall
    · exact login_budget_of_one_spelling limiter hone

/-- `LoginRateLimiter` with its defaults; the keyed hash is left as it is given. -/
def loginRateLimiter (digest : String → String) (digest_injective : Function.Injective digest) :
    RateLimiter where
  digest := digest
  limit := 5
  window := 60000000
  code := "AUTH_RATE_LIMITED"
  message := "Too many authentication attempts. Try again later."
  maximumIdentifiers := 4096
  digest_injective := digest_injective
  limit_pos := by decide
  window_pos := by decide
  maximumIdentifiers_pos := by decide

/-- Five guesses as `alice_1` and five as `Alice_1`, from two clients, within ten seconds: all ten
passwords are verified against the account of `alice_1`, where five are allowed a minute. -/
theorem two_spellings_ten_guesses :
    let requests := (List.range 5).map (fun i : ℕ =>
        (⟨"192.0.2.1", "alice_1", "password-123", 1000000 * i⟩ : LoginRequest)) ++
      (List.range 5).map (fun i : ℕ =>
        ⟨"192.0.2.2", "Alice_1", "password-123", 5000000 + 1000000 * i⟩)
    requests.Pairwise (fun a b => a.now ≤ b.now) ∧
      (identifiers requests).card < (loginRateLimiter id Function.injective_id).maximumIdentifiers ∧
      (verifiedWithin (loginRateLimiter id Function.injective_id) requests "alice_1" 0).length
        = 10 ∧
      (loginRateLimiter id Function.injective_id).limit = 5 := by
  decide +kernel

end RateReplay
