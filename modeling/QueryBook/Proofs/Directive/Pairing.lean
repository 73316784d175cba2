import QueryBook.Proofs.Template.Placement

namespace QueryBook

/-!
# How markers are paired

A search for directives goes from left to right. It takes the first opening marker that a closing
marker follows, the first such closing marker, and goes on behind it.

* `Text.gaps`, `Text.weave` — the ranges between ranges, and two rows of texts in turns.
* `Directive.Kind.OpensAt` — a place with an opening marker that a closing marker follows.
* `Directive.Kind.Pairing` — what it means that markers are paired from left to right, each body as
  short as possible, and none left out.
* `Directive.Kind.Leads` — the first pair from a place on; there is at most one (`Leads.unique`).
* `pairing_ofKind` — the directives of a kind are the one pairing of its markers, and together with
  the gaps they make up the text.
-/

open Text (Ascending Span)

/-! ### Gaps -/

namespace Text

/-- What lies between two places before, between and behind ascending ranges. -/
def gaps (start stop : Nat) : List Span → List Span
  | [] => [⟨start, stop⟩]
  | s :: ss => ⟨start, s.start⟩ :: gaps s.stop stop ss

/-- The texts of two rows in turns, beginning with the first row. -/
def weave : List (List Char) → List (List Char) → List Char
  | g :: gs, m :: ms => g ++ m ++ weave gs ms
  | gs, [] => gs.flatten
  | [], ms => ms.flatten

/-- From a place on, a text is a range and what follows it. -/
theorem drop_eq_slice_append (text : List Char) {start stop : Nat} (h : start ≤ stop) :
    text.drop start = Span.slice ⟨start, stop⟩ text ++ text.drop stop := by
  have hstop : text.drop stop = (text.drop start).drop (stop - start) := by
    rw [List.drop_drop]
    congr 1
    omega
  rw [hstop, Span.slice, List.take_append_drop]

end Text

namespace Directive

/-! ### Pairs of markers -/

/-- At a place begins an opening marker that a closing marker follows. -/
def Kind.OpensAt (k : Kind) (text : List Char) (place : Nat) : Prop :=
  ∃ body after, text.drop place = k.opening ++ body ++ k.closing ++ after

/-- From a place on, the markers of a kind are paired from left to right. -/
structure Kind.Pairing (k : Kind) (text : List Char) (start : Nat) (ds : List Directive) : Prop where
  kind : ∀ d ∈ ds, d.kind = k
  /-- The ranges are in order, and no two of them overlap. -/
  ascending : Ascending start text.length (ds.map span)
  written : ∀ d ∈ ds, d.span.slice text = k.opening ++ d.body ++ k.closing
  /-- No closing marker comes before the end of a body. -/
  shortest : ∀ d ∈ ds, ∀ place, d.bodySpan.start ≤ place → k.closing <+: text.drop place →
    d.bodySpan.stop ≤ place
  /-- No pair is left out. -/
  leftmost : ∀ gap ∈ Text.gaps start text.length (ds.map span), ∀ place, gap.start ≤ place →
    place < gap.stop → ¬ k.OpensAt text place

/-- From a place on, a directive is the first pair of markers. -/
structure Kind.Leads (k : Kind) (text : List Char) (start : Nat) (d : Directive) : Prop where
  kind : d.kind = k
  start_le : start ≤ d.start
  standsIn : d.StandsIn text
  shortest : ∀ place, d.bodySpan.start ≤ place → k.closing <+: text.drop place →
    d.bodySpan.stop ≤ place
  leftmost : ∀ place, start ≤ place → place < d.start → ¬ k.OpensAt text place

variable {k : Kind} {text : List Char} {start place : Nat} {d d' : Directive}
  {ds ds' : List Directive}

/-- A marker opens in the rest of a text where it opens in the text. -/
theorem Kind.opensAt_drop : k.OpensAt (text.drop start) place ↔ k.OpensAt text (start + place) := by
  rw [OpensAt, OpensAt, List.drop_drop]

/-- Behind the end of a text nothing begins. -/
theorem Kind.OpensAt.lt_length (h : k.OpensAt text place) : place < text.length := by
  obtain ⟨body, after, hdrop⟩ := h
  have hlength := congrArg List.length hdrop
  have hopening := k.opening_length_pos
  simp only [List.length_drop, List.length_append] at hlength
  omega

/-- The range of a directive that is written in a text holds its marker. -/
theorem StandsIn.slice_span (h : d.StandsIn text) : d.span.slice text = d.marker := by
  obtain ⟨before, after, rfl, hstart⟩ := h
  have hlength := d.length_marker
  have hspan : d.span.start = before.length := hstart
  rw [Span.slice, hspan, List.append_assoc, List.drop_left, ← hspan, ← hlength, List.take_left]

/-- A directive stands in a text if its range holds its marker. -/
theorem standsIn_of_slice_span (h : d.span.slice text = d.marker) : d.StandsIn text := by
  have hlength := congrArg List.length h
  have hmarker := d.length_marker_eq
  have hopening := d.kind.opening_length_pos
  rw [Span.slice, List.length_take, List.length_drop] at hlength
  have hspan : d.span.start = d.start := rfl
  refine ⟨text.take d.start, text.drop d.span.stop, ?_, ?_⟩
  · rw [← h, List.append_assoc, ← Text.drop_eq_slice_append text d.start_le_span_stop, hspan,
      List.take_append_drop]
  · rw [List.length_take]
    omega

/-- From its place on, a text is the marker of the directive and what follows it. -/
theorem StandsIn.drop_start (h : d.StandsIn text) :
    text.drop d.start = d.marker ++ text.drop d.span.stop := by
  have hdrop := Text.drop_eq_slice_append text d.start_le_span_stop
  rwa [h.slice_span] at hdrop

/-- Where a directive stands its opening marker is followed by a closing one. -/
theorem StandsIn.opensAt (h : d.StandsIn text) : d.kind.OpensAt text d.start :=
  ⟨d.body, text.drop d.span.stop, h.drop_start⟩

/-- Behind the body stands the closing marker. -/
theorem StandsIn.closing_prefix (h : d.StandsIn text) :
    d.kind.closing <+: text.drop d.bodySpan.stop := by
  have hdrop : text.drop d.bodySpan.stop =
      (text.drop d.start).drop (d.kind.opening ++ d.body).length := by
    rw [List.drop_drop]
    congr 1
    simp only [bodySpan, List.length_append]
    omega
  rw [hdrop, h.drop_start, marker, List.append_assoc, List.drop_left]
  exact List.prefix_append _ _

/-- The range of a body does not end before it begins. -/
theorem bodySpan_start_le_stop (d : Directive) : d.bodySpan.start ≤ d.bodySpan.stop :=
  Nat.le_add_right _ _

/-- No two directives are the first pair. -/
theorem Kind.Leads.unique (h : k.Leads text start d) (h' : k.Leads text start d') : d = d' := by
  have hkind : d.kind = d'.kind := h.kind.trans h'.kind.symm
  have hstart : d.start = d'.start := by
    -- The one that starts later would have passed over an opening marker.
    rcases Nat.lt_trichotomy d.start d'.start with hlt | heq | hlt
    · exact absurd (h.kind ▸ h.standsIn.opensAt) (h'.leftmost d.start h.start_le hlt)
    · exact heq
    · exact absurd (h'.kind ▸ h'.standsIn.opensAt) (h.leftmost d'.start h'.start_le hlt)
  have hfirst : d.bodySpan.start = d'.bodySpan.start := by simp only [bodySpan, hkind, hstart]
  have hstop : d.bodySpan.stop = d'.bodySpan.stop := by
    apply Nat.le_antisymm
    · refine h.shortest _ ?_ (h'.kind ▸ h'.standsIn.closing_prefix)
      exact hfirst ▸ d'.bodySpan_start_le_stop
    · refine h'.shortest _ ?_ (h.kind ▸ h.standsIn.closing_prefix)
      exact hfirst ▸ d.bodySpan_start_le_stop
  have hbody : d.body = d'.body := by
    rw [← h.standsIn.slice_bodySpan, ← h'.standsIn.slice_bodySpan, Span.slice, Span.slice, hfirst,
      hstop]
  cases d
  cases d'
  simp only at hkind hstart hbody
  rw [hkind, hstart, hbody]

/-! ### Pairings -/

/-- Where no pair begins any more, nothing is paired. -/
theorem Kind.pairing_nil (hstart : start ≤ text.length)
    (h : ∀ place, start ≤ place → ¬ k.OpensAt text place) : k.Pairing text start [] where
  kind _ hd := absurd hd List.not_mem_nil
  ascending := hstart
  written _ hd := absurd hd List.not_mem_nil
  shortest _ hd := absurd hd List.not_mem_nil
  leftmost gap hgap place hle hlt := by
    rw [List.map_nil, Text.gaps, List.mem_singleton] at hgap
    subst hgap
    exact h place hle

/-- Behind the first pair the markers are paired in the same way. -/
theorem Kind.pairing_cons_iff :
    k.Pairing text start (d :: ds) ↔ k.Leads text start d ∧ k.Pairing text d.span.stop ds := by
  constructor
  · intro h
    have hkind := h.kind d List.mem_cons_self
    have hstandsIn := standsIn_of_slice_span (hkind ▸ h.written d List.mem_cons_self)
    obtain ⟨hstart, -, hrest⟩ := h.ascending
    refine ⟨⟨hkind, hstart, hstandsIn, h.shortest d List.mem_cons_self, ?_⟩, ?_⟩
    · exact h.leftmost ⟨start, d.start⟩ List.mem_cons_self
    · exact ⟨fun e he => h.kind e (List.mem_cons_of_mem d he), hrest,
        fun e he => h.written e (List.mem_cons_of_mem d he),
        fun e he => h.shortest e (List.mem_cons_of_mem d he),
        fun gap hgap => h.leftmost gap (List.mem_cons_of_mem _ hgap)⟩
  · rintro ⟨hd, h⟩
    refine ⟨?_, ⟨hd.start_le, d.start_le_span_stop, h.ascending⟩, ?_, ?_, ?_⟩
    · exact List.forall_mem_cons.2 ⟨hd.kind, h.kind⟩
    · exact List.forall_mem_cons.2 ⟨hd.kind ▸ hd.standsIn.slice_span, h.written⟩
    · exact List.forall_mem_cons.2 ⟨hd.shortest, h.shortest⟩
    · exact List.forall_mem_cons.2 ⟨hd.leftmost, h.leftmost⟩

/-- There is one pairing at most. -/
theorem Kind.Pairing.unique (h : k.Pairing text start ds) (h' : k.Pairing text start ds') :
    ds = ds' := by
  -- A pair where the other list has none would have to begin in its last gap.
  have hnone : ∀ {start : Nat} {d : Directive} {ds : List Directive}, k.Pairing text start [] →
      ¬ k.Pairing text start (d :: ds) := by
    intro start d ds hnil hcons
    have hd := (pairing_cons_iff.1 hcons).1
    have hopens : k.OpensAt text d.start := hd.kind ▸ hd.standsIn.opensAt
    exact hnil.leftmost ⟨start, text.length⟩ List.mem_cons_self d.start hd.start_le
      hopens.lt_length hopens
  induction ds generalizing start ds' with
  | nil =>
    cases ds' with
    | nil => rfl
    | cons d' ds' => exact absurd h' (hnone h)
  | cons d ds ih =>
    cases ds' with
    | nil => exact absurd h (hnone h')
    | cons d' ds' =>
      obtain ⟨hd, h⟩ := pairing_cons_iff.1 h
      obtain ⟨hd', h'⟩ := pairing_cons_iff.1 h'
      obtain rfl := hd.unique hd'
      rw [ih h h']

/-- The gaps and the markers in turns are the text. -/
theorem Kind.Pairing.weave_gaps (h : k.Pairing text start ds) :
    Text.weave ((Text.gaps start text.length (ds.map span)).map (·.slice text)) (ds.map marker) =
      text.drop start := by
  induction ds generalizing start with
  | nil =>
    have hdrop := Text.drop_eq_slice_append text h.ascending.le
    rw [List.drop_length, List.append_nil] at hdrop
    rw [hdrop]
    simp [Text.gaps, Text.weave]
  | cons d ds ih =>
    obtain ⟨hd, h⟩ := pairing_cons_iff.1 h
    rw [List.map_cons, List.map_cons, Text.gaps, List.map_cons, Text.weave, ih h, List.append_assoc,
      ← hd.standsIn.drop_start]
    exact (Text.drop_eq_slice_append text hd.start_le).symm

/-! ### The search -/

/-- A search that finds nothing: no pair begins anywhere. -/
theorem not_opensAt_of_first?_eq_none (h : first? k text = none) (place : Nat) :
    ¬ k.OpensAt text place := by
  rintro ⟨body, after, hdrop⟩
  have htext : k.opening ++ (body ++ k.closing ++ after) <:+ text := by
    rw [← List.append_assoc, ← List.append_assoc, ← hdrop]
    exact List.drop_suffix place text
  simp only [first?] at h
  split at h
  · next hnone =>
    refine Text.breakOn?_eq_none.1 hnone (List.IsInfix.trans ?_ htext.isInfix)
    exact (List.prefix_append _ _).isInfix
  · next before rest hbefore =>
    split at h
    · next hnone =>
      -- The pair begins no sooner than the first opening marker, so it closes behind that one.
      have hle : before.length ≤ place := by
        by_contra hlt
        refine Text.breakOn?_first hbefore (Nat.lt_of_not_le hlt) ?_
        rw [hdrop, List.append_assoc, List.append_assoc]
        exact List.prefix_append _ _
      have hwhole := Text.breakOn?_append hbefore
      have hlengths := congrArg List.length hdrop
      have hlength := congrArg List.length hwhole
      simp only [List.length_append, List.length_drop] at hlengths hlength
      have hrest : rest <:+ text := ⟨before ++ k.opening, hwhole.symm⟩
      have hafter : body ++ k.closing ++ after <:+ text :=
        (List.suffix_append _ _).trans htext
      have hinside : body ++ k.closing ++ after <:+ rest := by
        refine List.suffix_of_suffix_length_le hafter hrest ?_
        simp only [List.length_append]
        omega
      refine Text.breakOn?_eq_none.1 hnone (List.IsInfix.trans ?_ hinside.isInfix)
      exact ⟨body, after, rfl⟩
    · cases h

/-- The two steps of a search. -/
theorem breakOn?_of_first? {before body after : List Char}
    (h : first? k text = some (before, body, after)) :
    ∃ rest, Text.breakOn? k.opening text = some (before, rest) ∧
      Text.breakOn? k.closing rest = some (body, after) := by
  simp only [first?] at h
  split at h
  · cases h
  · next b rest hbefore =>
    split at h
    · cases h
    · next b' a hbody =>
      simp only [Option.some.injEq, Prod.mk.injEq] at h
      obtain ⟨rfl, rfl, rfl⟩ := h
      exact ⟨rest, hbefore, hbody⟩

/-- What a search from a place on finds stands there, and the search goes on behind it. -/
theorem standsIn_of_first? {before body after : List Char} (hstart : start ≤ text.length)
    (h : first? k (text.drop start) = some (before, body, after)) :
    let d : Directive := ⟨k, start + before.length, body⟩
    d.StandsIn text ∧ after = text.drop d.span.stop := by
  intro d
  have hdrop := first?_append h
  have hstandsIn : d.StandsIn text := by
    refine ⟨text.take start ++ before, after, ?_, ?_⟩
    · calc text = text.take start ++ text.drop start := (List.take_append_drop start text).symm
        _ = text.take start ++ (before ++ d.marker ++ after) := by rw [hdrop]; rfl
        _ = _ := by simp only [List.append_assoc]
    · simp [d, hstart]
  have hbehind : text.drop d.start = d.marker ++ after := by
    show text.drop (start + before.length) = _
    rw [← List.drop_drop, hdrop, List.append_assoc, List.drop_left]
    rfl
  exact ⟨hstandsIn, List.append_cancel_left (hbehind.symm.trans hstandsIn.drop_start)⟩

/-- A search from a place on finds the first pair. -/
theorem leads_of_first? {before body after : List Char} (hstart : start ≤ text.length)
    (h : first? k (text.drop start) = some (before, body, after)) :
    let d : Directive := ⟨k, start + before.length, body⟩
    k.Leads text start d := by
  intro d
  obtain ⟨rest, hbefore, hbody⟩ := breakOn?_of_first? h
  refine ⟨rfl, Nat.le_add_right _ _, (standsIn_of_first? hstart h).1, ?_, ?_⟩
  · intro place hplace hclosing
    by_contra hlt
    have hrest : rest = text.drop d.bodySpan.start := by
      have hopening : text.drop start = before ++ k.opening ++ rest := Text.breakOn?_append hbefore
      have hplaces : d.bodySpan.start = start + (before ++ k.opening).length := by
        simp [d, bodySpan, Nat.add_assoc]
      rw [hplaces, ← List.drop_drop, hopening, List.drop_left]
    -- The end would be inside the body, which goes to the first closing marker.
    have hinside : place - d.bodySpan.start < body.length := by
      have hstop : d.bodySpan.stop = d.bodySpan.start + body.length := rfl
      omega
    refine Text.breakOn?_first hbody hinside ?_
    rw [hrest, List.drop_drop, Nat.add_sub_cancel' hplace]
    exact hclosing
  · rintro place hle hlt ⟨more, behind, hplace⟩
    have hbetween : place - start < before.length := by
      have hd : d.start = start + before.length := rfl
      omega
    refine Text.breakOn?_first hbefore hbetween ?_
    rw [List.drop_drop, Nat.add_sub_cancel' hle, hplace, List.append_assoc, List.append_assoc]
    exact List.prefix_append _ _

/-- The search for a kind pairs its markers. -/
theorem pairing_scanFrom (hstart : start ≤ text.length) :
    k.Pairing text start (scanFrom k start (text.drop start)) := by
  generalize hrest : text.drop start = rest
  fun_induction scanFrom k start rest with
  | case1 start rest hnone =>
    refine Kind.pairing_nil hstart fun place hplace hopens => ?_
    refine not_opensAt_of_first?_eq_none (hrest ▸ hnone) (place - start) (Kind.opensAt_drop.2 ?_)
    rwa [Nat.add_sub_cancel' hplace]
  | case2 start rest before body after hfirst hlt d ih =>
    obtain ⟨hd, hafter⟩ := standsIn_of_first? hstart (hrest ▸ hfirst)
    exact Kind.pairing_cons_iff.2
      ⟨leads_of_first? hstart (hrest ▸ hfirst), ih hd.stop_le hafter.symm⟩

end Directive

/-! ### The directives of a text -/

/-- The directives of a kind. -/
def Extraction.ofKind (e : Extraction) : Directive.Kind → List Directive
  | .optional => e.optional
  | .literal => e.literal
  | .parameter => e.parameter

/-- The directives of a kind are what the search for the kind finds. -/
theorem ofKind_extract (text : List Char) (k : Directive.Kind) :
    (extract text).ofKind k = Directive.scan k text := by
  cases k <;> rfl

/-- **Markers are paired from left to right.** The directives of a kind are in order and do not
    overlap; each of them is an opening marker and the first closing marker behind it, with the body
    between them; no further pair begins in the gaps. This determines them, and the gaps and the
    markers in turns give the text back. -/
theorem pairing_ofKind (text : List Char) (k : Directive.Kind) :
    let found := (extract text).ofKind k
    (∀ ds, k.Pairing text 0 ds ↔ ds = found) ∧
      found.map (·.span.slice text) = found.map Directive.marker ∧
      Text.weave ((Text.gaps 0 text.length (found.map Directive.span)).map (·.slice text))
        (found.map Directive.marker) = text := by
  intro found
  have hfound : k.Pairing text 0 found := by
    simp only [found, ofKind_extract]
    exact Directive.pairing_scanFrom (Nat.zero_le _)
  refine ⟨fun ds => ⟨fun h => h.unique hfound, fun h => h ▸ hfound⟩, ?_, hfound.weave_gaps⟩
  apply List.map_congr_left
  intro d hd
  rw [hfound.written d hd, ← hfound.kind d hd]
  rfl

/-- Markers in a row: the second pair begins behind the first one, and the last marker is alone. -/
example : ((extract "@@@a@@@@@b@@ @@".toList).ofKind .parameter).map Directive.marker =
    ["@@@a@@".toList, "@@@b@@".toList] := by
  decide +kernel

end QueryBook
