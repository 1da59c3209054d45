import ScriptVet.Regex.CharSet

/-!
# Letters without regard to case

Characters that differ in case only form an orbit. Most orbits are pairs, and the pairs stand in runs; the
others are listed.
-/

namespace ScriptVet.Regex

/-- A run of pairs: the `i`-th pair is `first + i * step` and `second + i * step`. -/
structure PairRun where
  first : Nat
  second : Nat
  step : Nat
  count : Nat

/-- The orbits with two members. -/
def pairRuns : List PairRun :=
  [⟨0x41, 0x61, 1, 10⟩, ⟨0x4C, 0x6C, 2, 8⟩, ⟨0x4D, 0x6D, 2, 3⟩, ⟨0x55, 0x75, 2, 3⟩,
    ⟨0xC0, 0xE0, 2, 16⟩, ⟨0xC1, 0xE1, 2, 2⟩, ⟨0xC7, 0xE7, 2, 8⟩, ⟨0xD9, 0xF9, 2, 3⟩,
    ⟨0xDF, 0x1E9E, 1, 1⟩, ⟨0xFF, 0x178, 1, 1⟩, ⟨0x100, 0x101, 2, 24⟩, ⟨0x132, 0x133, 2, 3⟩,
    ⟨0x139, 0x13A, 2, 8⟩, ⟨0x14A, 0x14B, 2, 23⟩, ⟨0x179, 0x17A, 2, 3⟩, ⟨0x180, 0x243, 1, 1⟩,
    ⟨0x181, 0x253, 1, 1⟩, ⟨0x182, 0x183, 2, 2⟩, ⟨0x186, 0x254, 1, 1⟩, ⟨0x187, 0x188, 1, 1⟩,
    ⟨0x189, 0x256, 1, 2⟩, ⟨0x18B, 0x18C, 1, 1⟩, ⟨0x18E, 0x1DD, 1, 1⟩, ⟨0x18F, 0x259, 1, 1⟩,
    ⟨0x190, 0x25B, 1, 1⟩, ⟨0x191, 0x192, 1, 1⟩, ⟨0x193, 0x260, 1, 1⟩, ⟨0x194, 0x263, 1, 1⟩,
    ⟨0x195, 0x1F6, 1, 1⟩, ⟨0x196, 0x269, 1, 1⟩, ⟨0x197, 0x268, 1, 1⟩, ⟨0x198, 0x199, 1, 1⟩,
    ⟨0x19A, 0x23D, 1, 1⟩, ⟨0x19C, 0x26F, 1, 1⟩, ⟨0x19D, 0x272, 1, 1⟩, ⟨0x19E, 0x220, 1, 1⟩,
    ⟨0x19F, 0x275, 1, 1⟩, ⟨0x1A0, 0x1A1, 2, 3⟩, ⟨0x1A6, 0x280, 1, 1⟩, ⟨0x1A7, 0x1A8, 1, 1⟩,
    ⟨0x1A9, 0x283, 1, 1⟩, ⟨0x1AC, 0x1AD, 1, 1⟩, ⟨0x1AE, 0x288, 1, 1⟩, ⟨0x1AF, 0x1B0, 1, 1⟩,
    ⟨0x1B1, 0x28A, 1, 2⟩, ⟨0x1B3, 0x1B4, 2, 2⟩, ⟨0x1B7, 0x292, 1, 1⟩, ⟨0x1B8, 0x1B9, 1, 1⟩,
    ⟨0x1BC, 0x1BD, 1, 1⟩, ⟨0x1BF, 0x1F7, 1, 1⟩, ⟨0x1CD, 0x1CE, 2, 8⟩, ⟨0x1DE, 0x1DF, 2, 9⟩,
    ⟨0x1F4, 0x1F5, 1, 1⟩, ⟨0x1F8, 0x1F9, 2, 20⟩, ⟨0x222, 0x223, 2, 9⟩, ⟨0x23A, 0x2C65, 1, 1⟩,
    ⟨0x23B, 0x23C, 1, 1⟩, ⟨0x23E, 0x2C66, 1, 1⟩, ⟨0x23F, 0x2C7E, 1, 2⟩, ⟨0x241, 0x242, 1, 1⟩,
    ⟨0x244, 0x289, 1, 1⟩, ⟨0x245, 0x28C, 1, 1⟩, ⟨0x246, 0x247, 2, 5⟩, ⟨0x250, 0x2C6F, 1, 1⟩,
    ⟨0x251, 0x2C6D, 1, 1⟩, ⟨0x252, 0x2C70, 1, 1⟩, ⟨0x25C, 0xA7AB, 1, 1⟩, ⟨0x261, 0xA7AC, 1, 1⟩,
    ⟨0x265, 0xA78D, 1, 1⟩, ⟨0x266, 0xA7AA, 1, 1⟩, ⟨0x26A, 0xA7AE, 1, 1⟩, ⟨0x26B, 0x2C62, 1, 1⟩,
    ⟨0x26C, 0xA7AD, 1, 1⟩, ⟨0x271, 0x2C6E, 1, 1⟩, ⟨0x27D, 0x2C64, 1, 1⟩, ⟨0x282, 0xA7C5, 1, 1⟩,
    ⟨0x287, 0xA7B1, 1, 1⟩, ⟨0x29D, 0xA7B2, 1, 1⟩, ⟨0x29E, 0xA7B0, 1, 1⟩, ⟨0x370, 0x371, 2, 2⟩,
    ⟨0x376, 0x377, 1, 1⟩, ⟨0x37B, 0x3FD, 1, 3⟩, ⟨0x37F, 0x3F3, 1, 1⟩, ⟨0x386, 0x3AC, 1, 1⟩,
    ⟨0x388, 0x3AD, 1, 3⟩, ⟨0x38C, 0x3CC, 1, 1⟩, ⟨0x38E, 0x3CD, 1, 2⟩, ⟨0x391, 0x3B1, 2, 2⟩,
    ⟨0x394, 0x3B4, 2, 2⟩, ⟨0x397, 0x3B7, 1, 1⟩, ⟨0x39B, 0x3BB, 2, 3⟩, ⟨0x39E, 0x3BE, 1, 1⟩,
    ⟨0x3A4, 0x3C4, 1, 2⟩, ⟨0x3A7, 0x3C7, 1, 2⟩, ⟨0x3AA, 0x3CA, 1, 2⟩, ⟨0x3CF, 0x3D7, 1, 1⟩,
    ⟨0x3D8, 0x3D9, 2, 12⟩, ⟨0x3F2, 0x3F9, 1, 1⟩, ⟨0x3F7, 0x3F8, 1, 1⟩, ⟨0x3FA, 0x3FB, 1, 1⟩,
    ⟨0x400, 0x450, 1, 16⟩, ⟨0x410, 0x430, 1, 2⟩, ⟨0x413, 0x433, 2, 7⟩, ⟨0x416, 0x436, 2, 4⟩,
    ⟨0x420, 0x440, 1, 1⟩, ⟨0x423, 0x443, 1, 7⟩, ⟨0x42B, 0x44B, 1, 5⟩, ⟨0x460, 0x461, 1, 1⟩,
    ⟨0x464, 0x465, 2, 15⟩, ⟨0x48A, 0x48B, 2, 27⟩, ⟨0x4C0, 0x4CF, 1, 1⟩, ⟨0x4C1, 0x4C2, 2, 7⟩,
    ⟨0x4D0, 0x4D1, 2, 48⟩, ⟨0x531, 0x561, 1, 38⟩, ⟨0x10A0, 0x2D00, 1, 38⟩, ⟨0x10C7, 0x2D27, 1, 1⟩,
    ⟨0x10CD, 0x2D2D, 1, 1⟩, ⟨0x10D0, 0x1C90, 1, 43⟩, ⟨0x10FD, 0x1CBD, 1, 3⟩,
    ⟨0x13A0, 0xAB70, 1, 80⟩, ⟨0x13F0, 0x13F8, 1, 6⟩, ⟨0x1D79, 0xA77D, 1, 1⟩, ⟨0x1D7D, 0x2C63, 1, 1⟩,
    ⟨0x1D8E, 0xA7C6, 1, 1⟩, ⟨0x1E00, 0x1E01, 2, 48⟩, ⟨0x1E62, 0x1E63, 2, 26⟩,
    ⟨0x1EA0, 0x1EA1, 2, 48⟩, ⟨0x1F00, 0x1F08, 1, 8⟩, ⟨0x1F10, 0x1F18, 1, 6⟩, ⟨0x1F20, 0x1F28, 1, 8⟩,
    ⟨0x1F30, 0x1F38, 1, 8⟩, ⟨0x1F40, 0x1F48, 1, 6⟩, ⟨0x1F51, 0x1F59, 2, 4⟩, ⟨0x1F60, 0x1F68, 1, 8⟩,
    ⟨0x1F70, 0x1FBA, 1, 2⟩, ⟨0x1F72, 0x1FC8, 1, 4⟩, ⟨0x1F76, 0x1FDA, 1, 2⟩, ⟨0x1F78, 0x1FF8, 1, 2⟩,
    ⟨0x1F7A, 0x1FEA, 1, 2⟩, ⟨0x1F7C, 0x1FFA, 1, 2⟩, ⟨0x1F80, 0x1F88, 1, 8⟩, ⟨0x1F90, 0x1F98, 1, 8⟩,
    ⟨0x1FA0, 0x1FA8, 1, 8⟩, ⟨0x1FB0, 0x1FB8, 1, 2⟩, ⟨0x1FB3, 0x1FBC, 1, 1⟩, ⟨0x1FC3, 0x1FCC, 1, 1⟩,
    ⟨0x1FD0, 0x1FD8, 1, 2⟩, ⟨0x1FE0, 0x1FE8, 1, 2⟩, ⟨0x1FE5, 0x1FEC, 1, 1⟩, ⟨0x1FF3, 0x1FFC, 1, 1⟩,
    ⟨0x2132, 0x214E, 1, 1⟩, ⟨0x2160, 0x2170, 1, 16⟩, ⟨0x2183, 0x2184, 1, 1⟩,
    ⟨0x24B6, 0x24D0, 1, 26⟩, ⟨0x2C00, 0x2C30, 1, 48⟩, ⟨0x2C60, 0x2C61, 1, 1⟩,
    ⟨0x2C67, 0x2C68, 2, 3⟩, ⟨0x2C72, 0x2C73, 1, 1⟩, ⟨0x2C75, 0x2C76, 1, 1⟩, ⟨0x2C80, 0x2C81, 2, 50⟩,
    ⟨0x2CEB, 0x2CEC, 2, 2⟩, ⟨0x2CF2, 0x2CF3, 1, 1⟩, ⟨0xA640, 0xA641, 2, 5⟩, ⟨0xA64C, 0xA64D, 2, 17⟩,
    ⟨0xA680, 0xA681, 2, 14⟩, ⟨0xA722, 0xA723, 2, 7⟩, ⟨0xA732, 0xA733, 2, 31⟩,
    ⟨0xA779, 0xA77A, 2, 2⟩, ⟨0xA77E, 0xA77F, 2, 5⟩, ⟨0xA78B, 0xA78C, 1, 1⟩, ⟨0xA790, 0xA791, 2, 2⟩,
    ⟨0xA794, 0xA7C4, 1, 1⟩, ⟨0xA796, 0xA797, 2, 10⟩, ⟨0xA7B3, 0xAB53, 1, 1⟩, ⟨0xA7B4, 0xA7B5, 2, 8⟩,
    ⟨0xA7C7, 0xA7C8, 2, 2⟩, ⟨0xA7D0, 0xA7D1, 1, 1⟩, ⟨0xA7D6, 0xA7D7, 2, 2⟩, ⟨0xA7F5, 0xA7F6, 1, 1⟩,
    ⟨0xFF21, 0xFF41, 1, 26⟩, ⟨0x10400, 0x10428, 1, 40⟩, ⟨0x104B0, 0x104D8, 1, 36⟩,
    ⟨0x10570, 0x10597, 2, 19⟩, ⟨0x10571, 0x10598, 2, 5⟩, ⟨0x1057D, 0x105A4, 2, 7⟩,
    ⟨0x1058D, 0x105B4, 2, 3⟩, ⟨0x10595, 0x105BC, 1, 1⟩, ⟨0x10C80, 0x10CC0, 1, 51⟩,
    ⟨0x118A0, 0x118C0, 1, 32⟩, ⟨0x16E40, 0x16E60, 1, 32⟩, ⟨0x1E900, 0x1E922, 1, 34⟩]

/-- The orbits with more than two members. -/
def largeOrbits : List (List Nat) :=
  [[0x4B, 0x6B, 0x212A], [0x53, 0x73, 0x17F], [0xB5, 0x39C, 0x3BC], [0xC5, 0xE5, 0x212B],
    [0x1C4, 0x1C5, 0x1C6], [0x1C7, 0x1C8, 0x1C9], [0x1CA, 0x1CB, 0x1CC], [0x1F1, 0x1F2, 0x1F3],
    [0x345, 0x399, 0x3B9, 0x1FBE], [0x392, 0x3B2, 0x3D0], [0x395, 0x3B5, 0x3F5],
    [0x398, 0x3B8, 0x3D1, 0x3F4], [0x39A, 0x3BA, 0x3F0], [0x3A0, 0x3C0, 0x3D6],
    [0x3A1, 0x3C1, 0x3F1], [0x3A3, 0x3C2, 0x3C3], [0x3A6, 0x3C6, 0x3D5], [0x3A9, 0x3C9, 0x2126],
    [0x412, 0x432, 0x1C80], [0x414, 0x434, 0x1C81], [0x41E, 0x43E, 0x1C82], [0x421, 0x441, 0x1C83],
    [0x422, 0x442, 0x1C84, 0x1C85], [0x42A, 0x44A, 0x1C86], [0x462, 0x463, 0x1C87],
    [0x1C88, 0xA64A, 0xA64B], [0x1E60, 0x1E61, 0x1E9B]]

/-- The pairs of a run of which one member lies in a range. -/
def PairRun.touching (r : PairRun) (lo hi : Nat) : List (Nat × Nat) :=
  (List.range r.count).filterMap fun i =>
    let a := r.first + i * r.step
    let b := r.second + i * r.step
    if (lo ≤ a && a ≤ hi) || (lo ≤ b && b ≤ hi) then some (a, b) else none

/-- The members of a run lie in a range, or could. -/
def PairRun.near (r : PairRun) (lo hi : Nat) : Bool :=
  let reach := r.count * r.step
  (lo ≤ r.first + reach && r.first ≤ hi) || (lo ≤ r.second + reach && r.second ≤ hi)

/-- The characters that differ in case only from one in the range, and the range itself. -/
def foldRange (lo hi : Nat) : List (Nat × Nat) :=
  let pairs := (pairRuns.filter (·.near lo hi)).flatMap fun r => r.touching lo hi
  let large := (largeOrbits.filter fun o => o.any fun n => lo ≤ n && n ≤ hi).flatten
  let extra := pairs.flatMap (fun (a, b) => [a, b]) ++ large
  (lo, hi) :: (extra.filter fun n => !(lo ≤ n && n ≤ hi)).map fun n => (n, n)

/-- The set with all characters that differ in case only from a member. -/
def CharSet.fold (s : CharSet) : CharSet :=
  CharSet.normalize ⟨s.ranges.flatMap fun (lo, hi) => foldRange lo hi⟩

end ScriptVet.Regex
