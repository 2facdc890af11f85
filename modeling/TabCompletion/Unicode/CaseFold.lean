import TabCompletion.Unicode.CharSet

/-!
# Case folding

Two characters are the same but for case if they have the same simple case folding. `foldText`
lists the characters that fold to another one: `A-B>C` says that `A` folds to `C`, the next one to
the next one, up to `B`; with `/2` only every second one does.
-/
namespace TabCompletion.Unicode.CaseFold

def foldText : List String :=
  ["41-5A>61 B5>3BC C0-D6>E0 D8-DE>F8 100-12E/2>101 132-136/2>133 139-147/2>13A 14A-176/2>14B",
    "178>FF 179-17D/2>17A 17F>73 181>253 182-184/2>183 186>254 187>188 189-18A>256 18B>18C",
    "18E>1DD 18F>259 190>25B 191>192 193>260 194>263 196>269 197>268 198>199 19C>26F 19D>272",
    "19F>275 1A0-1A4/2>1A1 1A6>280 1A7>1A8 1A9>283 1AC>1AD 1AE>288 1AF>1B0 1B1-1B2>28A",
    "1B3-1B5/2>1B4 1B7>292 1B8>1B9 1BC>1BD 1C4>1C6 1C5>1C6 1C7>1C9 1C8>1C9 1CA>1CC",
    "1CB-1DB/2>1CC 1DE-1EE/2>1DF 1F1>1F3 1F2-1F4/2>1F3 1F6>195 1F7>1BF 1F8-21E/2>1F9 220>19E",
    "222-232/2>223 23A>2C65 23B>23C 23D>19A 23E>2C66 241>242 243>180 244>289 245>28C",
    "246-24E/2>247 345>3B9 370-372/2>371 376>377 37F>3F3 386>3AC 388-38A>3AD 38C>3CC",
    "38E-38F>3CD 391-3A1>3B1 3A3-3AB>3C3 3C2>3C3 3CF>3D7 3D0>3B2 3D1>3B8 3D5>3C6 3D6>3C0",
    "3D8-3EE/2>3D9 3F0>3BA 3F1>3C1 3F4>3B8 3F5>3B5 3F7>3F8 3F9>3F2 3FA>3FB 3FD-3FF>37B",
    "400-40F>450 410-42F>430 460-480/2>461 48A-4BE/2>48B 4C0>4CF 4C1-4CD/2>4C2 4D0-52E/2>4D1",
    "531-556>561 10A0-10C5>2D00 10C7>2D27 10CD>2D2D 13F8-13FD>13F0 1C80>432 1C81>434 1C82>43E",
    "1C83-1C84>441 1C85>442 1C86>44A 1C87>463 1C88>A64B 1C89>1C8A 1C90-1CBA>10D0 1CBD-1CBF>10FD",
    "1E00-1E94/2>1E01 1E9B>1E61 1E9E>DF 1EA0-1EFE/2>1EA1 1F08-1F0F>1F00 1F18-1F1D>1F10",
    "1F28-1F2F>1F20 1F38-1F3F>1F30 1F48-1F4D>1F40 1F59-1F5F/2>1F51 1F68-1F6F>1F60",
    "1F88-1F8F>1F80 1F98-1F9F>1F90 1FA8-1FAF>1FA0 1FB8-1FB9>1FB0 1FBA-1FBB>1F70 1FBC>1FB3",
    "1FBE>3B9 1FC8-1FCB>1F72 1FCC>1FC3 1FD3>390 1FD8-1FD9>1FD0 1FDA-1FDB>1F76 1FE3>3B0",
    "1FE8-1FE9>1FE0 1FEA-1FEB>1F7A 1FEC>1FE5 1FF8-1FF9>1F78 1FFA-1FFB>1F7C 1FFC>1FF3 2126>3C9",
    "212A>6B 212B>E5 2132>214E 2160-216F>2170 2183>2184 24B6-24CF>24D0 2C00-2C2F>2C30 2C60>2C61",
    "2C62>26B 2C63>1D7D 2C64>27D 2C67-2C6B/2>2C68 2C6D>251 2C6E>271 2C6F>250 2C70>252 2C72>2C73",
    "2C75>2C76 2C7E-2C7F>23F 2C80-2CE2/2>2C81 2CEB-2CED/2>2CEC 2CF2>2CF3 A640-A66C/2>A641",
    "A680-A69A/2>A681 A722-A72E/2>A723 A732-A76E/2>A733 A779-A77B/2>A77A A77D>1D79",
    "A77E-A786/2>A77F A78B>A78C A78D>265 A790-A792/2>A791 A796-A7A8/2>A797 A7AA>266 A7AB>25C",
    "A7AC>261 A7AD>26C A7AE>26A A7B0>29E A7B1>287 A7B2>29D A7B3>AB53 A7B4-A7C2/2>A7B5 A7C4>A794",
    "A7C5>282 A7C6>1D8E A7C7-A7C9/2>A7C8 A7CB>264 A7CC>A7CD A7D0>A7D1 A7D6-A7DA/2>A7D7 A7DC>19B",
    "A7F5>A7F6 AB70-ABBF>13A0 FB05>FB06 FF21-FF3A>FF41 10400-10427>10428 104B0-104D3>104D8",
    "10570-1057A>10597 1057C-1058A>105A3 1058C-10592>105B3 10594-10595>105BB 10C80-10CB2>10CC0",
    "10D50-10D65>10D70 118A0-118BF>118C0 16E40-16E5F>16E60 1E900-1E921>1E922"]

def entry (text : String) : List (Nat × Nat) :=
  match text.splitOn ">" with
  | [source,target] =>
    let (span, step) := match source.splitOn "/" with
      | [span,_] => (span, 2)
      | _ => (source, 1)
    match CharSet.ofText [span] with
    | [(lo, hi)] =>
      (List.range ((hi - lo) / step + 1)).map fun k => (lo + k * step, hexNat target + k * step)
    | _ => []
  | _ => []

/-- All foldings `(character, folded)`. -/
def table : List (Nat × Nat) := foldText.flatMap fun line => (line.splitOn " ").flatMap entry

/-- The characters that are in the set but for case. -/
def close (set : CharSet) : CharSet :=
  let folded := table.filterMap fun (a, b) => if set.contains a then some (b, b) else none
  let targets := set.union (CharSet.normalize folded)
  let sources := table.filterMap fun (a, b) => if targets.contains b then some (a, a) else none
  targets.union (CharSet.normalize sources)

end TabCompletion.Unicode.CaseFold
