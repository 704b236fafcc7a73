/-!
# What remains of a character in plain ASCII

Compatibility decomposition takes a character apart into base letters, digits, punctuation
and marks.  The skeleton of a character is the ASCII part of that, in order: `é` leaves `e`,
`½` leaves `12`, `™` leaves `TM`, and `ł` nothing.  Marks never stand between the ASCII
parts of two characters, so the skeleton of a text is the concatenation of the skeletons
of its characters.
-/

namespace PageScripts
namespace Text

/-- The skeletons of runs of consecutive characters: the code point of the first, and
the skeletons separated by `·`. -/
def skeletonRuns : List (Nat × String) :=
  [
    (0xA0, " "),
    (0xA8, " ··a"),
    (0xAF, " ···2·3· ···· ·1·o··14·12·34··A·A·A·A·A·A··C·E·E·E·E·I·I·I·I··N·O"),
    (0xD3, "O·O·O·O···U·U·U·U·Y···a·a·a·a·a·a··c·e·e·e·e·i·i·i·i··n·o·o·o·o·o"),
    (0xF7, "··u·u·u·u·y··y·A·a·A·a·A·a·C·c·C·c·C·c·C·c·D·d···E·e·E·e·E·e·E·e·E"),
    (0x11B, "e·G·g·G·g·G·g·G·g·H·h···I·i·I·i·I·i·I·i·I··IJ·ij·J·j·K·k··L·l·L·l"),
    (0x13D, "L·l·L·l···N·n·N·n·N·n·n···O·o·O·o·O·o···R·r·R·r·R·r·S·s·S·s·S·s·S"),
    (0x161, "s·T·t·T·t···U·u·U·u·U·u·U·u·U·u·U·u·W·w·Y·y·Y·Z·z·Z·z·Z·z·s"),
    (0x1A0, "O·o"),
    (0x1AF, "U·u"),
    (0x1C4, "DZ·Dz·dz·LJ·Lj·lj·NJ·Nj·nj·A·a·I·i·O·o·U·u·U·u·U·u·U·u·U·u··A·a·A"),
    (0x1E1, "a"),
    (0x1E6, "G·g·K·k·O·o·O·o···j·DZ·Dz·dz·G·g···N·n·A·a"),
    (0x200, "A·a·A·a·E·e·E·e·I·i·I·i·O·o·O·o·R·r·R·r·U·u·U·u·S·s·T·t···H·h"),
    (0x226, "A·a·E·e·O·o·O·o·O·o·O·o·Y·y"),
    (0x2B0, "h··j·r····w·y"),
    (0x2D8, " · · · · · ····l·s·x"),
    (0x37A, " ····;"),
    (0x384, " · "),
    (0x1D2C, "A··B··D·E··G·H·I·J·K·L·M·N··O··P·R·T·U·W·a····b·d·e····g··k·m··o·"),
    (0x1D54, "··p·t·u···v"),
    (0x1D62, "i·r·u·v"),
    (0x1D9C, "c····f"),
    (0x1DBB, "z"),
    (0x1E00, "A·a·B·b·B·b·B·b·C·c·D·d·D·d·D·d·D·d·D·d·E·e·E·e·E·e·E·e·E·e·F·f·G"),
    (0x1E21, "g·H·h·H·h·H·h·H·h·H·h·I·i·I·i·K·k·K·k·K·k·L·l·L·l·L·l·L·l·M·m·M·m"),
    (0x1E42, "M·m·N·n·N·n·N·n·N·n·O·o·O·o·O·o·O·o·P·p·P·p·R·r·R·r·R·r·R·r·S·s·S"),
    (0x1E63, "s·S·s·S·s·S·s·T·t·T·t·T·t·T·t·U·u·U·u·U·u·U·u·U·u·V·v·V·v·W·w·W·w"),
    (0x1E84, "W·w·W·w·W·w·X·x·X·x·Y·y·Z·z·Z·z·Z·z·h·t·w·y·a·s"),
    (0x1EA0, "A·a·A·a·A·a·A·a·A·a·A·a·A·a·A·a·A·a·A·a·A·a·A·a·E·e·E·e·E·e·E·e·E"),
    (0x1EC1, "e·E·e·E·e·E·e·I·i·I·i·O·o·O·o·O·o·O·o·O·o·O·o·O·o·O·o·O·o·O·o·O·o"),
    (0x1EE2, "O·o·U·u·U·u·U·u·U·u·U·u·U·u·U·u·Y·y·Y·y·Y·y·Y·y"),
    (0x1FBD, " ·· · · "),
    (0x1FCD, " · · "),
    (0x1FDD, " · · "),
    (0x1FED, " · ·`"),
    (0x1FFD, " · ·· · · · · · · · · · · "),
    (0x2017, " "),
    (0x2024, ".·..·..."),
    (0x202F, " "),
    (0x203C, "!!·· "),
    (0x2047, "??·?!·!?"),
    (0x205F, " "),
    (0x2070, "0·i···4·5·6·7·8·9·+··=·(·)·n·0·1·2·3·4·5·6·7·8·9·+··=·(·)··a·e·o·x"),
    (0x2094, "·h·k·l·m·n·p·s·t"),
    (0x20A8, "Rs"),
    (0x2100, "a/c·a/s·C·C··c/o·c/u···F·g·H·H·H·h··I·I·L·l··N·No···P·Q·R·R·R···SM"),
    (0x2121, "TEL·TM··Z····Z··K·A·B·C··e·E·F··M·o"),
    (0x2139, "i··FAX"),
    (0x2145, "D·d·e·i·j"),
    (0x2150, "17·19·110·13·23·15·25·35·45·16·56·18·38·58·78·1·I·II·III·IV·V·VI·VII"),
    (0x2167, "VIII·IX·X·XI·XII·L·C·D·M·i·ii·iii·iv·v·vi·vii·viii·ix·x·xi·xii·l·c"),
    (0x217E, "d·m"),
    (0x2189, "03"),
    (0x2260, "="),
    (0x226E, "<·>"),
    (0x2460, "1·2·3·4·5·6·7·8·9·10·11·12·13·14·15·16·17·18·19·20·(1)·(2)·(3)·(4)"),
    (0x2478, "(5)·(6)·(7)·(8)·(9)·(10)·(11)·(12)·(13)·(14)·(15)·(16)·(17)·(18)·(19)"),
    (0x2487, "(20)·1.·2.·3.·4.·5.·6.·7.·8.·9.·10.·11.·12.·13.·14.·15.·16.·17.·18."),
    (0x249A, "19.·20.·(a)·(b)·(c)·(d)·(e)·(f)·(g)·(h)·(i)·(j)·(k)·(l)·(m)·(n)·(o)"),
    (0x24AB, "(p)·(q)·(r)·(s)·(t)·(u)·(v)·(w)·(x)·(y)·(z)·A·B·C·D·E·F·G·H·I·J·K"),
    (0x24C1, "L·M·N·O·P·Q·R·S·T·U·V·W·X·Y·Z·a·b·c·d·e·f·g·h·i·j·k·l·m·n·o·p·q·r"),
    (0x24E2, "s·t·u·v·w·x·y·z·0"),
    (0x2A74, "::=·==·==="),
    (0x2C7C, "j·V"),
    (0x3000, " "),
    (0x309B, " · "),
    (0x3200, "()·()·()·()·()·()·()·()·()·()·()·()·()·()·()·()·()·()·()·()·()·()"),
    (0x3216, "()·()·()·()·()·()·()·()·()··()·()·()·()·()·()·()·()·()·()·()·()·()"),
    (0x322D, "()·()·()·()·()·()·()·()·()·()·()·()·()·()·()·()·()·()·()·()·()·()"),
    (0x3243, "()"),
    (0x3250, "PTE·21·22·23·24·25·26·27·28·29·30·31·32·33·34·35"),
    (0x32B1, "36·37·38·39·40·41·42·43·44·45·46·47·48·49·50·1·2·3·4·5·6·7·8·9·10"),
    (0x32CA, "11·12·Hg·erg·eV·LTD"),
    (0x3358, "0·1·2·3·4·5·6·7·8·9·10·11·12·13·14·15·16·17·18·19·20·21·22·23·24·hPa"),
    (0x3372, "da·AU·bar·oV·pc·dm·dm2·dm3·IU"),
    (0x3380, "pA·nA·A·mA·kA·KB·MB·GB·cal·kcal·pF·nF·F·g·mg·kg·Hz·kHz·MHz·GHz·THz"),
    (0x3395, "l·ml·dl·kl·fm·nm·m·mm·cm·km·mm2·cm2·m2·km2·mm3·cm3·m3·km3·ms·ms2·Pa"),
    (0x33AA, "kPa·MPa·GPa·rad·rads·rads2·ps·ns·s·ms·pV·nV·V·mV·kV·MV·pW·nW·W·mW"),
    (0x33BE, "kW·MW·k·M·a.m.·Bq·cc·cd·Ckg·Co.·dB·Gy·ha·HP·in·KK·KM·kt·lm·ln·log"),
    (0x33D3, "lx·mb·mil·mol·PH·p.m.·PPM·PR·sr·Sv·Wb·Vm·Am·1·2·3·4·5·6·7·8·9·10·11"),
    (0x33EB, "12·13·14·15·16·17·18·19·20·21·22·23·24·25·26·27·28·29·30·31·gal"),
    (0xA7F2, "C·F·Q"),
    (0xFB00, "ff·fi·fl·ffi·ffl·st·st"),
    (0xFB29, "+"),
    (0xFC5E, " · · · · · "),
    (0xFDFA, "   · "),
    (0xFE10, ",···:·;·!·?···..."),
    (0xFE30, "..···_·_·(·)·\x7b·\x7d"),
    (0xFE47, "[·]· · · · ·_·_·_·,··.··;·:·?·!··(·)·\x7b·\x7d···#·&·*·+·-·<·>·=·"),
    (0xFE68, "\\·$·%·@"),
    (0xFE70, " ·· ·· ·· ·· ·· ·· ·· "),
    (0xFF01, "!·\"·#·$·%·&·'·(·)·*·+·,·-·.·/·0·1·2·3·4·5·6·7·8·9·:·;·<·=·>·?·@·A"),
    (0xFF22, "B·C·D·E·F·G·H·I·J·K·L·M·N·O·P·Q·R·S·T·U·V·W·X·Y·Z·[·\\·]·^·_·`·a·b"),
    (0xFF43, "c·d·e·f·g·h·i·j·k·l·m·n·o·p·q·r·s·t·u·v·w·x·y·z·\x7b·|·\x7d·~"),
    (0xFFE3, " "),
    (0x107A5, "q"),
    (0x1D400, "A·B·C·D·E·F·G·H·I·J·K·L·M·N·O·P·Q·R·S·T·U·V·W·X·Y·Z·a·b·c·d·e·f·g"),
    (0x1D421, "h·i·j·k·l·m·n·o·p·q·r·s·t·u·v·w·x·y·z·A·B·C·D·E·F·G·H·I·J·K·L·M·N"),
    (0x1D442, "O·P·Q·R·S·T·U·V·W·X·Y·Z·a·b·c·d·e·f·g··i·j·k·l·m·n·o·p·q·r·s·t·u·v"),
    (0x1D464, "w·x·y·z·A·B·C·D·E·F·G·H·I·J·K·L·M·N·O·P·Q·R·S·T·U·V·W·X·Y·Z·a·b·c"),
    (0x1D485, "d·e·f·g·h·i·j·k·l·m·n·o·p·q·r·s·t·u·v·w·x·y·z·A··C·D···G···J·K···N"),
    (0x1D4AA, "O·P·Q··S·T·U·V·W·X·Y·Z·a·b·c·d··f··h·i·j·k·l·m·n··p·q·r·s·t·u·v·w"),
    (0x1D4CD, "x·y·z·A·B·C·D·E·F·G·H·I·J·K·L·M·N·O·P·Q·R·S·T·U·V·W·X·Y·Z·a·b·c·d"),
    (0x1D4EE, "e·f·g·h·i·j·k·l·m·n·o·p·q·r·s·t·u·v·w·x·y·z·A·B··D·E·F·G···J·K·L·M"),
    (0x1D511, "N·O·P·Q··S·T·U·V·W·X·Y··a·b·c·d·e·f·g·h·i·j·k·l·m·n·o·p·q·r·s·t·u"),
    (0x1D533, "v·w·x·y·z·A·B··D·E·F·G··I·J·K·L·M··O····S·T·U·V·W·X·Y··a·b·c·d·e·f"),
    (0x1D558, "g·h·i·j·k·l·m·n·o·p·q·r·s·t·u·v·w·x·y·z·A·B·C·D·E·F·G·H·I·J·K·L·M"),
    (0x1D579, "N·O·P·Q·R·S·T·U·V·W·X·Y·Z·a·b·c·d·e·f·g·h·i·j·k·l·m·n·o·p·q·r·s·t"),
    (0x1D59A, "u·v·w·x·y·z·A·B·C·D·E·F·G·H·I·J·K·L·M·N·O·P·Q·R·S·T·U·V·W·X·Y·Z·a"),
    (0x1D5BB, "b·c·d·e·f·g·h·i·j·k·l·m·n·o·p·q·r·s·t·u·v·w·x·y·z·A·B·C·D·E·F·G·H"),
    (0x1D5DC, "I·J·K·L·M·N·O·P·Q·R·S·T·U·V·W·X·Y·Z·a·b·c·d·e·f·g·h·i·j·k·l·m·n·o"),
    (0x1D5FD, "p·q·r·s·t·u·v·w·x·y·z·A·B·C·D·E·F·G·H·I·J·K·L·M·N·O·P·Q·R·S·T·U·V"),
    (0x1D61E, "W·X·Y·Z·a·b·c·d·e·f·g·h·i·j·k·l·m·n·o·p·q·r·s·t·u·v·w·x·y·z·A·B·C"),
    (0x1D63F, "D·E·F·G·H·I·J·K·L·M·N·O·P·Q·R·S·T·U·V·W·X·Y·Z·a·b·c·d·e·f·g·h·i·j"),
    (0x1D660, "k·l·m·n·o·p·q·r·s·t·u·v·w·x·y·z·A·B·C·D·E·F·G·H·I·J·K·L·M·N·O·P·Q"),
    (0x1D681, "R·S·T·U·V·W·X·Y·Z·a·b·c·d·e·f·g·h·i·j·k·l·m·n·o·p·q·r·s·t·u·v·w·x"),
    (0x1D6A2, "y·z"),
    (0x1D7CE, "0·1·2·3·4·5·6·7·8·9·0·1·2·3·4·5·6·7·8·9·0·1·2·3·4·5·6·7·8·9·0·1·2"),
    (0x1D7EF, "3·4·5·6·7·8·9·0·1·2·3·4·5·6·7·8·9"),
    (0x1F100, "0.·0,·1,·2,·3,·4,·5,·6,·7,·8,·9,"),
    (0x1F110, "(A)·(B)·(C)·(D)·(E)·(F)·(G)·(H)·(I)·(J)·(K)·(L)·(M)·(N)·(O)·(P)·(Q)"),
    (0x1F121, "(R)·(S)·(T)·(U)·(V)·(W)·(X)·(Y)·(Z)·S·C·R·CD·WZ··A·B·C·D·E·F·G·H·I"),
    (0x1F139, "J·K·L·M·N·O·P·Q·R·S·T·U·V·W·X·Y·Z·HV·MV·SD·SS·PPV·WC"),
    (0x1F16A, "MC·MD·MR"),
    (0x1F190, "DJ"),
    (0x1FBF0, "0·1·2·3·4·5·6·7·8·9")
  ]

/-- The runs, split into single skeletons. -/
def skeletons : List (Nat × List String) :=
  skeletonRuns.map fun run => (run.1, run.2.splitOn "·")

/-- The ASCII part of a character's compatibility decomposition. -/
def skeleton (c : Char) : List Char :=
  if c.toNat < 0x80 then
    [c]
  else
    match skeletons.find? fun run =>
        run.1 ≤ c.toNat && c.toNat < run.1 + run.2.length with
    | some run => ((run.2[c.toNat - run.1]?).getD "").toList
    | none => []

end Text
end PageScripts
