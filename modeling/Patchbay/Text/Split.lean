-- Cutting a text at each occurrence of another, from the left and without
-- overlaps.
namespace Patchbay.Text

/-- The text before the first occurrence of `mark` and the text after it. -/
def cut? (mark : List Char) : List Char → Option (List Char × List Char)
  | [] => if mark = [] then some ([], []) else none
  | c :: cs =>
    if mark.isPrefixOf (c :: cs) then some ([], (c :: cs).drop mark.length)
    else (cut? mark cs).map fun (before, after) => (c :: before, after)

theorem length_cut?_le {mark cs before after : List Char}
    (h : cut? mark cs = some (before, after)) :
    before.length + mark.length + after.length ≤ cs.length := by
  fun_induction cut? mark cs generalizing before after with
  | case1 hm =>
    simp only [Option.some.injEq, Prod.mk.injEq] at h
    obtain ⟨rfl, rfl⟩ := h
    simp [hm]
  | case2 => simp at h
  | case3 c cs hp =>
    simp only [Option.some.injEq, Prod.mk.injEq] at h
    obtain ⟨rfl, rfl⟩ := h
    have hm := List.isPrefixOf_iff_prefix.1 hp
    have := hm.length_le
    simp only [List.length_drop, List.length_nil]
    omega
  | case4 c cs _ ih =>
    obtain ⟨⟨b, a⟩, hc, he⟩ := Option.map_eq_some_iff.1 h
    simp only [Prod.mk.injEq] at he
    obtain ⟨rfl, rfl⟩ := he
    have := ih hc
    simp only [List.length_cons]
    omega

/-- The parts between the occurrences of `mark`. An empty mark cuts nothing. -/
def splitOn (mark cs : List Char) : List (List Char) :=
  if _ : mark = [] then [cs]
  else
    match _ : cut? mark cs with
    | none => [cs]
    | some (before, after) => before :: splitOn mark after
  termination_by cs.length
  decreasing_by
    have h := length_cut?_le ‹cut? mark cs = some (before, after)›
    have := List.length_pos_iff.2 ‹¬mark = []›
    omega

end Patchbay.Text
