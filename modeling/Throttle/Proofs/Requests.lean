import Mathlib
import Throttle.Admission.Control

/-! # What a request says: its key and the capabilities it asks for

The standard key of a request names its sender: the first of client id, network address and
user id that is present and not empty, with the kind of field it came from. Two requests
share a key exactly when they name the same sender, and every request that names none shares
the fallback key, which no named sender has (`Admission.keyFor_separates_senders`). The kinds
are told apart by the first character of their prefix, so no text of one kind can pose as
another.

A header value listing capabilities is read by cutting it at each comma, trimming the pieces
and dropping the empty ones (`Request.headerEntries`). White space at either end of the whole
value only widens its first or last piece, so trimming the value first reads the same
entries (`Request.headerEntries_trim`), and appending `", "` and a name adds exactly that
name. Asking for usage signalling therefore adds the signalling capability to what the
header lists, changes the header not at all when it is listed already, touches no other
header, and asking twice is asking once (`Admission.requestSignal_adds_signal`).
-/

namespace Throttle

namespace Admission

/-! ## Senders and keys -/

/-- Who sends a request, as far as its key can tell: its client id, its network address or
its user id, with which of them it is. -/
inductive Sender where
  | client (id : String)
  | address (addr : String)
  | user (id : String)
deriving DecidableEq

/-- The sender of a request: the first of its client id, network address and user id that
is present and not empty; none when all three are absent or empty. -/
def Request.sender (r : Request) : Option Sender :=
  ((r.clientId.filter (!·.isEmpty)).map .client).or
    (((r.remoteAddr.filter (!·.isEmpty)).map .address).or
      ((r.userId.filter (!·.isEmpty)).map .user))

/-- The key that names a sender. -/
def Sender.key : Sender → String
  | .client id => "client:" ++ id
  | .address addr => "ip:" ++ addr
  | .user id => "user:" ++ id

theorem Request.present_eq_filter (x : Option String) : present x = x.filter (!·.isEmpty) := by
  cases x with
  | none => rfl
  | some s => by_cases hs : s.isEmpty <;> simp [present, hs, Option.filter]

/-- The standard key is the key of the sender, and fails exactly for a request without one. -/
theorem Request.standardKey_eq (r : Request) :
    r.standardKey = match r.sender with
      | some s => .ok s.key
      | none => .error (.keyExtraction "request carries no client id, remote address or user id") := by
  unfold standardKey sender
  simp only [← present_eq_filter]
  cases present r.clientId <;> cases present r.remoteAddr <;> cases present r.userId <;> rfl

/-- Keys of senders are equal only for equal senders: a key's first character tells its kind,
and the rest is the sender's text. -/
theorem Sender.key_inj {a b : Sender} : a.key = b.key ↔ a = b := by
  refine ⟨fun h => ?_, fun h => h ▸ rfl⟩
  have hl := congrArg String.toList h
  cases a <;> cases b <;> simp [key] at hl ⊢ <;> exact String.toList_inj.mp hl

theorem Sender.key_ne_fallback (s : Sender) : s.key ≠ Request.fallbackKey := by
  intro h
  have hl := congrArg String.toList h
  cases s <;> simp [key, Request.fallbackKey] at hl

/-- Under the standard key, a request's key is its sender's key, or the fallback key when it
names none. -/
theorem keyFor_standardKey (l : Limiter) (t : PolicyTable) (r : Request) :
    (⟨l, Request.standardKey, t⟩ : Control).keyFor r = (r.sender.map Sender.key).getD Request.fallbackKey := by
  simp only [Control.keyFor, Request.standardKey_eq]
  cases r.sender <;> rfl

/-- Under the standard key, two requests share a key exactly when they name the same sender,
identities of different kinds with equal text included, and a request gets the fallback key
exactly when it names no sender. -/
theorem keyFor_separates_senders (l : Limiter) (t : PolicyTable) (r₁ r₂ : Request) :
    ((⟨l, Request.standardKey, t⟩ : Control).keyFor r₁ =
        (⟨l, Request.standardKey, t⟩ : Control).keyFor r₂ ↔ r₁.sender = r₂.sender) ∧
      ((⟨l, Request.standardKey, t⟩ : Control).keyFor r₁ = Request.fallbackKey ↔
        r₁.sender = none) := by
  simp only [keyFor_standardKey]
  constructor
  · cases h₁ : r₁.sender <;> cases h₂ : r₂.sender
    · simp
    · simpa using (Sender.key_ne_fallback _).symm
    · simpa using Sender.key_ne_fallback _
    · simp [Sender.key_inj]
  · cases r₁.sender
    · simp
    · simpa using Sender.key_ne_fallback _

/-! ## Header values -/

end Admission

namespace Text

theorem trim_spaces_append {A : List Char} (hA : ∀ c ∈ A, isSpace c = true) (x : List Char) :
    trim (String.ofList (A ++ x)) = trim (String.ofList x) := by
  simp [trim, List.dropWhile_append_of_pos hA]

theorem trim_append_spaces (x : List Char) {Z : List Char} (hZ : ∀ c ∈ Z, isSpace c = true) :
    trim (String.ofList (x ++ Z)) = trim (String.ofList x) := by
  simp only [trim, String.toList_ofList, List.dropWhile_append]
  split
  · -- the value is blank throughout
    rename_i hx
    rw [List.dropWhile_eq_nil_iff.mpr hZ, List.isEmpty_iff.mp hx]
  · rw [List.reverse_append, List.dropWhile_append_of_pos (fun c hc => hZ c (List.mem_reverse.mp hc))]

/-- A value with no blank in it trims to itself. -/
theorem trim_of_forall_not_space {s : String} (hs : ∀ c ∈ s.toList, isSpace c = false) :
    trim s = s := by
  have hkeep : ∀ l : List Char, (∀ c ∈ l, isSpace c = false) → l.dropWhile isSpace = l :=
    fun l hl => List.dropWhile_eq_self_iff.mpr fun h0 => by simp [hl _ (List.getElem_mem h0)]
  rw [trim, hkeep _ hs, hkeep _ (by simpa using hs), List.reverse_reverse, String.ofList_toList]

theorem isSpace_comma : isSpace ',' = false := by decide

/-- Splitting a value with blanks added at the back splits it as before, the blanks going to
its last piece. -/
theorem splitOn_append_spaces {Z : List Char} (hZ : ∀ c ∈ Z, isSpace c = true) :
    ∀ l : List Char, ∃ P q, l.splitOn ',' = P ++ [q] ∧ (l ++ Z).splitOn ',' = P ++ [q ++ Z]
  | [] => by
      have hnot : ',' ∉ Z := fun h => by simpa [isSpace_comma] using hZ ',' h
      exact ⟨[], [], rfl, by simp [List.splitOn_eq_singleton hnot]⟩
  | a :: l => by
      obtain ⟨P, q, hl, hlZ⟩ := splitOn_append_spaces hZ l
      rw [List.cons_append, List.splitOn_cons_eq_if_modifyHead, List.splitOn_cons_eq_if_modifyHead,
        hl, hlZ]
      by_cases ha : a = ','
      · exact ⟨[] :: P, q, by simp [ha], by simp [ha]⟩
      · cases P with
        | nil => exact ⟨[], a :: q, by simp [ha], by simp [ha]⟩
        | cons p P => exact ⟨(a :: p) :: P, q, by simp [ha], by simp [ha]⟩

end Text

namespace Admission

namespace Request

theorem headerEntries_ofList (l : List Char) :
    headerEntries (String.ofList l) =
      ((l.splitOn ',').map fun x => Text.trim (String.ofList x)).filter (!·.isEmpty) := by
  simp [headerEntries, Text.pieces, Function.comp_def]

theorem headerEntries_comma (x y : List Char) :
    headerEntries (String.ofList (x ++ ',' :: y)) =
      headerEntries (String.ofList x) ++ headerEntries (String.ofList y) := by
  simp only [headerEntries_ofList, List.splitOn_append_cons_self, List.map_append,
    List.filter_append]

theorem headerEntries_space_cons {a : Char} (ha : Text.isSpace a = true) (l : List Char) :
    headerEntries (String.ofList (a :: l)) = headerEntries (String.ofList l) := by
  have hne : a ≠ ',' := fun h => by simp [h, Text.isSpace_comma] at ha
  obtain ⟨q, R, hqR⟩ := List.exists_cons_of_ne_nil (List.splitOn_ne_nil ',' l)
  have htrim : Text.trim (String.ofList (a :: q)) = Text.trim (String.ofList q) :=
    Text.trim_spaces_append (A := [a]) (by simpa using ha) q
  rw [headerEntries_ofList, headerEntries_ofList, List.splitOn_cons_eq_if_modifyHead,
    if_neg (by simpa using hne), hqR, List.modifyHead_cons, List.map_cons, List.map_cons, htrim]

theorem headerEntries_spaces_append {A : List Char} (hA : ∀ c ∈ A, Text.isSpace c = true)
    (l : List Char) : headerEntries (String.ofList (A ++ l)) = headerEntries (String.ofList l) := by
  induction A with
  | nil => rfl
  | cons a A ih =>
      rw [List.cons_append, headerEntries_space_cons (hA a List.mem_cons_self)]
      exact ih fun c hc => hA c (List.mem_cons_of_mem _ hc)

theorem headerEntries_append_spaces (l : List Char) {Z : List Char}
    (hZ : ∀ c ∈ Z, Text.isSpace c = true) :
    headerEntries (String.ofList (l ++ Z)) = headerEntries (String.ofList l) := by
  obtain ⟨P, q, hl, hlZ⟩ := Text.splitOn_append_spaces hZ l
  rw [headerEntries_ofList, headerEntries_ofList, hl, hlZ]
  simp only [List.map_append, List.map_singleton, Text.trim_append_spaces q hZ]

/-- Trimming a value first reads the same entries: its blanks at either end only widen its
first or last piece. -/
theorem headerEntries_trim (s : String) : headerEntries (Text.trim s) = headerEntries s := by
  set L := s.toList.dropWhile Text.isSpace with hL
  -- the value is its leading blanks, then its trimmed core, then its trailing blanks
  have hfront : s = String.ofList (s.toList.takeWhile Text.isSpace ++ L) := by
    rw [hL, List.takeWhile_append_dropWhile, String.ofList_toList]
  have hback : L = (L.reverse.dropWhile Text.isSpace).reverse ++
      (L.reverse.takeWhile Text.isSpace).reverse := by
    rw [← List.reverse_append, List.takeWhile_append_dropWhile, List.reverse_reverse]
  have htrim : Text.trim s = String.ofList (L.reverse.dropWhile Text.isSpace).reverse := rfl
  conv_rhs => rw [hfront]
  rw [headerEntries_spaces_append (fun c hc => List.mem_takeWhile_imp hc), htrim]
  conv_rhs => rw [hback]
  rw [headerEntries_append_spaces _ (fun c hc => List.mem_takeWhile_imp (List.mem_reverse.mp hc))]

theorem signalUri_isEmpty : signalUri.isEmpty = false := by decide

/-- The signalling capability holds neither a comma nor a blank. -/
theorem signalUri_plain : signalUri.toList.all (fun c => c != ',' && !Text.isSpace c) = true := by
  decide +kernel

theorem signalUri_no_comma : ',' ∉ signalUri.toList := fun h => by
  simpa using List.all_eq_true.mp signalUri_plain ',' h

theorem trim_signalUri : Text.trim signalUri = signalUri :=
  Text.trim_of_forall_not_space fun c hc => by
    have h := List.all_eq_true.mp signalUri_plain c hc
    simp only [Bool.and_eq_true, bne_iff_ne, ne_eq, Bool.not_eq_true'] at h
    exact h.2

/-- The signalling capability alone reads as itself. -/
theorem headerEntries_signalUri : headerEntries signalUri = [signalUri] := by
  rw [← String.ofList_toList (s := signalUri), headerEntries_ofList,
    List.splitOn_eq_singleton signalUri_no_comma]
  simp [String.ofList_toList, trim_signalUri, signalUri_isEmpty]

/-- Appending `", "` and the signalling capability adds exactly that entry. -/
theorem headerEntries_append_signal (current : String) :
    headerEntries (current ++ ", " ++ signalUri) = headerEntries current ++ [signalUri] := by
  have hchars : current ++ ", " ++ signalUri =
      String.ofList (current.toList ++ ',' :: ' ' :: signalUri.toList) := by
    have hsep : ", ".toList = [',', ' '] := rfl
    rw [← String.toList_inj, String.toList_ofList, String.toList_append, String.toList_append, hsep]
    simp
  rw [hchars, headerEntries_comma, headerEntries_space_cons (by decide), String.ofList_toList,
    String.ofList_toList, headerEntries_signalUri]

/-- A value lists the signalling capability exactly when one of its pieces trims to it. -/
theorem any_pieces_iff (current : String) :
    (Text.pieces ',' current).any (fun u => Text.trim u == signalUri) = true ↔
      signalUri ∈ headerEntries current := by
  simp [headerEntries, List.any_eq_true, List.mem_filter, List.mem_map, signalUri_isEmpty]

theorem mem_insertSorted {x s : String} :
    ∀ l : List String, x ∈ insertSorted s l ↔ x = s ∨ x ∈ l
  | [] => by simp [insertSorted]
  | y :: l => by
      unfold insertSorted
      by_cases hsy : s = y
      · subst hsy
        simp
      · by_cases hlt : s < y
        · simp [hsy, hlt]
        · simp only [hsy, hlt, if_false, List.mem_cons, mem_insertSorted l]
          tauto

/-- Reading a header value asks for exactly the capabilities it lists, on top of those
already asked for. -/
theorem isRequested_withExtensionHeader (r : Request) (header uri : String) :
    (r.withExtensionHeader header).isRequested uri ↔ r.isRequested uri ∨ uri ∈ headerEntries header := by
  unfold withExtensionHeader
  generalize headerEntries header = uris
  induction uris generalizing r with
  | nil => simp
  | cons u us ih =>
      simp only [List.foldl_cons, ih, List.mem_cons]
      simp only [isRequested, withRequested, List.contains_iff_mem, mem_insertSorted]
      tauto

end Request

/-! ## Asking for usage signalling -/

/-- Changing only the entries of `name`, without renaming any, keeps every other header. -/
theorem Headers.lookup_map_of_ne {name name' : String} (hne : name' ≠ name)
    {g : String × String → String × String} (hkey : ∀ x, (g x).1 = x.1)
    (hkeep : ∀ x, x.1 ≠ name → g x = x) :
    ∀ h : Headers, (h.map g).lookup name' = h.lookup name'
  | [] => rfl
  | (n, v) :: h => by
      have hg : g (n, v) = (n, (g (n, v)).2) := Prod.ext (hkey _) rfl
      rw [List.map_cons, hg, List.lookup_cons, List.lookup_cons]
      by_cases hn : name' = n
      · subst hn
        simp [hkeep (name', v) hne]
      · simp [beq_false_of_ne hn, Headers.lookup_map_of_ne hne hkey hkeep h]

/-- Setting every entry of `name` to `value` makes `value` the header's value, when it has
one. -/
theorem Headers.lookup_map_self {name value : String} {g : String × String → String × String}
    (hkey : ∀ x, (g x).1 = x.1) (hset : ∀ x, x.1 = name → g x = (name, value)) :
    ∀ h : Headers, h.any (·.1 == name) = true → (h.map g).lookup name = some value
  | [], hany => by simp at hany
  | (n, v) :: h, hany => by
      by_cases hn : n = name
      · subst hn
        simp [hset (n, v) rfl]
      · have hg : g (n, v) = (n, (g (n, v)).2) := Prod.ext (hkey _) rfl
        have htail : h.any (·.1 == name) = true := by simpa [hn] using hany
        rw [List.map_cons, hg, List.lookup_cons]
        simp [beq_false_of_ne (Ne.symm hn), Headers.lookup_map_self hkey hset h htail]

/-- Setting a header gives it its new value and keeps every other header. -/
theorem Headers.lookup_set (h : Headers) (name value name' : String) :
    (h.set name value).lookup name' = if name' = name then some value else h.lookup name' := by
  unfold Headers.set
  split
  · rename_i hany
    -- the map renames no header, sets the entries of `name` and keeps the others
    let g : String × String → String × String := fun x => if x.1 == name then (x.1, value) else x
    have hkey : ∀ x, (g x).1 = x.1 := fun x => by
      dsimp only [g]
      split <;> rfl
    have hset : ∀ x, x.1 = name → g x = (name, value) := fun x hx => by simp [g, hx]
    have hkeep : ∀ x, x.1 ≠ name → g x = x := fun x hx => by simp [g, hx]
    split
    · rename_i hn
      subst hn
      exact Headers.lookup_map_self hkey hset h hany
    · rename_i hn
      exact Headers.lookup_map_of_ne hn hkey hkeep h
  · rename_i hany
    rw [List.lookup_append]
    split
    · rename_i hn
      subst hn
      -- no header of that name yet, so the appended one is found
      have hnone : h.lookup name' = none := by
        simp only [List.any_eq_true, beq_iff_eq, Prod.exists, exists_and_right, exists_eq_right,
          not_exists] at hany
        simp only [List.lookup_eq_none_iff, bne_iff_ne, ne_eq, Prod.forall]
        rintro a b hab rfl
        exact hany b hab
      simp [hnone]
    · rename_i hn
      simp [List.lookup_cons, beq_false_of_ne hn]

section Signal

variable (h : Headers)

/-- Asking for usage signalling leaves headers that list it already as they are. -/
theorem requestSignal_of_mem
    (hm : signalUri ∈ Request.headerEntries ((h.lookup capabilityHeader).getD "")) :
    requestSignal h = h := by
  unfold requestSignal
  dsimp only
  rw [if_pos ((Request.any_pieces_iff _).mpr (by rwa [Request.headerEntries_trim]))]

/-- Otherwise it sets the capability header to the trimmed value followed by `", "` and the
capability, or to the capability alone for a blank value. -/
theorem requestSignal_of_not_mem
    (hm : signalUri ∉ Request.headerEntries ((h.lookup capabilityHeader).getD "")) :
    requestSignal h = h.set capabilityHeader
      (if (Text.trim ((h.lookup capabilityHeader).getD "")).isEmpty then signalUri
        else Text.trim ((h.lookup capabilityHeader).getD "") ++ ", " ++ signalUri) := by
  unfold requestSignal
  dsimp only
  rw [if_neg (fun hp => hm (by rw [← Request.headerEntries_trim]; exact (Request.any_pieces_iff _).mp hp))]

/-- After asking for usage signalling the capability header lists what it listed before,
then the capability unless it was there already. -/
theorem headerEntries_requestSignal :
    Request.headerEntries (((requestSignal h).lookup capabilityHeader).getD "") =
      Request.headerEntries ((h.lookup capabilityHeader).getD "") ++
        if signalUri ∈ Request.headerEntries ((h.lookup capabilityHeader).getD "") then []
        else [signalUri] := by
  by_cases hm : signalUri ∈ Request.headerEntries ((h.lookup capabilityHeader).getD "")
  · rw [requestSignal_of_mem h hm, if_pos hm, List.append_nil]
  · rw [requestSignal_of_not_mem h hm, Headers.lookup_set, if_pos rfl, Option.getD_some, if_neg hm,
      ← Request.headerEntries_trim ((h.lookup capabilityHeader).getD "")]
    split
    · -- a blank value lists nothing, and the capability alone lists itself
      rename_i hblank
      rw [Request.headerEntries_signalUri, String.isEmpty_iff.mp hblank]
      rfl
    · rw [Request.headerEntries_append_signal]

theorem lookup_requestSignal_of_ne {name : String} (hn : name ≠ capabilityHeader) :
    (requestSignal h).lookup name = h.lookup name := by
  by_cases hm : signalUri ∈ Request.headerEntries ((h.lookup capabilityHeader).getD "")
  · rw [requestSignal_of_mem h hm]
  · rw [requestSignal_of_not_mem h hm, Headers.lookup_set, if_neg hn]

/-- Asking twice is asking once: after the first request the header lists the capability. -/
theorem requestSignal_requestSignal : requestSignal (requestSignal h) = requestSignal h := by
  apply requestSignal_of_mem
  rw [headerEntries_requestSignal]
  split
  · rename_i hm
    simpa using hm
  · simp

end Signal

/-- Asking for usage signalling agrees with how the capability header is read: the header
then asks for what it asked for before (nothing when it was absent) and for the signalling
capability; it stays exactly as it was when it listed the capability already; no other header
changes; and asking twice is asking once. Asking through a card asks exactly when the card
offers the capability, and otherwise leaves the headers alone. -/
theorem requestSignal_adds_signal (h : Headers) :
    (∀ (r : Request) (uri : String),
      (r.withExtensionHeader (((requestSignal h).lookup capabilityHeader).getD "")).isRequested uri ↔
        (r.withExtensionHeader ((h.lookup capabilityHeader).getD "")).isRequested uri ∨
          uri = signalUri) ∧
    (signalUri ∈ Request.headerEntries ((h.lookup capabilityHeader).getD "") →
      requestSignal h = h) ∧
    (∀ name, name ≠ capabilityHeader → (requestSignal h).lookup name = h.lookup name) ∧
    requestSignal (requestSignal h) = requestSignal h ∧
    ∀ card : Option Card, intercept card h =
      (card.any Card.supportsSignal, if card.any Card.supportsSignal then requestSignal h else h) := by
  refine ⟨fun r uri => ?_, requestSignal_of_mem h, fun name hn => lookup_requestSignal_of_ne h hn,
    requestSignal_requestSignal h, fun card => ?_⟩
  · rw [Request.isRequested_withExtensionHeader, Request.isRequested_withExtensionHeader,
      headerEntries_requestSignal]
    by_cases hm : signalUri ∈ Request.headerEntries ((h.lookup capabilityHeader).getD "")
    · -- the capability was listed, so adding it again adds nothing
      simp only [hm, if_true, List.append_nil]
      constructor
      · exact .inl
      · rintro (hr | rfl)
        · exact hr
        · exact .inr hm
    · simp [hm, or_assoc]
  · cases hc : card.any Card.supportsSignal <;> simp [intercept, hc]

end Admission

end Throttle
