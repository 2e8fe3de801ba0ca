/-!
Named characters that start with a letter from a to l, with their code points.
-/

namespace Marginalia.Markdown.Entity

/-- Names that start with `a`. -/
def smallA : List (String × List Nat) := [
  ("aacute", [0xE1]), ("abreve", [0x103]), ("ac", [0x223E]), ("acE", [0x223E, 0x333]),
  ("acd", [0x223F]), ("acirc", [0xE2]), ("acute", [0xB4]), ("acy", [0x430]), ("aelig", [0xE6]),
  ("af", [0x2061]), ("afr", [0x1D51E]), ("agrave", [0xE0]), ("alefsym", [0x2135]),
  ("aleph", [0x2135]), ("alpha", [0x3B1]), ("amacr", [0x101]), ("amalg", [0x2A3F]),
  ("amp", [0x26]), ("and", [0x2227]), ("andand", [0x2A55]), ("andd", [0x2A5C]),
  ("andslope", [0x2A58]), ("andv", [0x2A5A]), ("ang", [0x2220]), ("ange", [0x29A4]),
  ("angle", [0x2220]), ("angmsd", [0x2221]), ("angmsdaa", [0x29A8]), ("angmsdab", [0x29A9]),
  ("angmsdac", [0x29AA]), ("angmsdad", [0x29AB]), ("angmsdae", [0x29AC]), ("angmsdaf", [0x29AD]),
  ("angmsdag", [0x29AE]), ("angmsdah", [0x29AF]), ("angrt", [0x221F]), ("angrtvb", [0x22BE]),
  ("angrtvbd", [0x299D]), ("angsph", [0x2222]), ("angst", [0xC5]), ("angzarr", [0x237C]),
  ("aogon", [0x105]), ("aopf", [0x1D552]), ("ap", [0x2248]), ("apE", [0x2A70]),
  ("apacir", [0x2A6F]), ("ape", [0x224A]), ("apid", [0x224B]), ("apos", [0x27]),
  ("approx", [0x2248]), ("approxeq", [0x224A]), ("aring", [0xE5]), ("ascr", [0x1D4B6]),
  ("ast", [0x2A]), ("asymp", [0x2248]), ("asympeq", [0x224D]), ("atilde", [0xE3]),
  ("auml", [0xE4]), ("awconint", [0x2233]), ("awint", [0x2A11])]

/-- Names that start with `b`. -/
def smallB : List (String × List Nat) := [
  ("bNot", [0x2AED]), ("backcong", [0x224C]), ("backepsilon", [0x3F6]), ("backprime", [0x2035]),
  ("backsim", [0x223D]), ("backsimeq", [0x22CD]), ("barvee", [0x22BD]), ("barwed", [0x2305]),
  ("barwedge", [0x2305]), ("bbrk", [0x23B5]), ("bbrktbrk", [0x23B6]), ("bcong", [0x224C]),
  ("bcy", [0x431]), ("bdquo", [0x201E]), ("becaus", [0x2235]), ("because", [0x2235]),
  ("bemptyv", [0x29B0]), ("bepsi", [0x3F6]), ("bernou", [0x212C]), ("beta", [0x3B2]),
  ("beth", [0x2136]), ("between", [0x226C]), ("bfr", [0x1D51F]), ("bigcap", [0x22C2]),
  ("bigcirc", [0x25EF]), ("bigcup", [0x22C3]), ("bigodot", [0x2A00]), ("bigoplus", [0x2A01]),
  ("bigotimes", [0x2A02]), ("bigsqcup", [0x2A06]), ("bigstar", [0x2605]),
  ("bigtriangledown", [0x25BD]), ("bigtriangleup", [0x25B3]), ("biguplus", [0x2A04]),
  ("bigvee", [0x22C1]), ("bigwedge", [0x22C0]), ("bkarow", [0x290D]), ("blacklozenge", [0x29EB]),
  ("blacksquare", [0x25AA]), ("blacktriangle", [0x25B4]), ("blacktriangledown", [0x25BE]),
  ("blacktriangleleft", [0x25C2]), ("blacktriangleright", [0x25B8]), ("blank", [0x2423]),
  ("blk12", [0x2592]), ("blk14", [0x2591]), ("blk34", [0x2593]), ("block", [0x2588]),
  ("bne", [0x3D, 0x20E5]), ("bnequiv", [0x2261, 0x20E5]), ("bnot", [0x2310]), ("bopf", [0x1D553]),
  ("bot", [0x22A5]), ("bottom", [0x22A5]), ("bowtie", [0x22C8]), ("boxDL", [0x2557]),
  ("boxDR", [0x2554]), ("boxDl", [0x2556]), ("boxDr", [0x2553]), ("boxH", [0x2550]),
  ("boxHD", [0x2566]), ("boxHU", [0x2569]), ("boxHd", [0x2564]), ("boxHu", [0x2567]),
  ("boxUL", [0x255D]), ("boxUR", [0x255A]), ("boxUl", [0x255C]), ("boxUr", [0x2559]),
  ("boxV", [0x2551]), ("boxVH", [0x256C]), ("boxVL", [0x2563]), ("boxVR", [0x2560]),
  ("boxVh", [0x256B]), ("boxVl", [0x2562]), ("boxVr", [0x255F]), ("boxbox", [0x29C9]),
  ("boxdL", [0x2555]), ("boxdR", [0x2552]), ("boxdl", [0x2510]), ("boxdr", [0x250C]),
  ("boxh", [0x2500]), ("boxhD", [0x2565]), ("boxhU", [0x2568]), ("boxhd", [0x252C]),
  ("boxhu", [0x2534]), ("boxminus", [0x229F]), ("boxplus", [0x229E]), ("boxtimes", [0x22A0]),
  ("boxuL", [0x255B]), ("boxuR", [0x2558]), ("boxul", [0x2518]), ("boxur", [0x2514]),
  ("boxv", [0x2502]), ("boxvH", [0x256A]), ("boxvL", [0x2561]), ("boxvR", [0x255E]),
  ("boxvh", [0x253C]), ("boxvl", [0x2524]), ("boxvr", [0x251C]), ("bprime", [0x2035]),
  ("breve", [0x2D8]), ("brvbar", [0xA6]), ("bscr", [0x1D4B7]), ("bsemi", [0x204F]),
  ("bsim", [0x223D]), ("bsime", [0x22CD]), ("bsol", [0x5C]), ("bsolb", [0x29C5]),
  ("bsolhsub", [0x27C8]), ("bull", [0x2022]), ("bullet", [0x2022]), ("bump", [0x224E]),
  ("bumpE", [0x2AAE]), ("bumpe", [0x224F]), ("bumpeq", [0x224F])]

/-- Names that start with `c`. -/
def smallC : List (String × List Nat) := [
  ("cacute", [0x107]), ("cap", [0x2229]), ("capand", [0x2A44]), ("capbrcup", [0x2A49]),
  ("capcap", [0x2A4B]), ("capcup", [0x2A47]), ("capdot", [0x2A40]), ("caps", [0x2229, 0xFE00]),
  ("caret", [0x2041]), ("caron", [0x2C7]), ("ccaps", [0x2A4D]), ("ccaron", [0x10D]),
  ("ccedil", [0xE7]), ("ccirc", [0x109]), ("ccups", [0x2A4C]), ("ccupssm", [0x2A50]),
  ("cdot", [0x10B]), ("cedil", [0xB8]), ("cemptyv", [0x29B2]), ("cent", [0xA2]),
  ("centerdot", [0xB7]), ("cfr", [0x1D520]), ("chcy", [0x447]), ("check", [0x2713]),
  ("checkmark", [0x2713]), ("chi", [0x3C7]), ("cir", [0x25CB]), ("cirE", [0x29C3]),
  ("circ", [0x2C6]), ("circeq", [0x2257]), ("circlearrowleft", [0x21BA]),
  ("circlearrowright", [0x21BB]), ("circledR", [0xAE]), ("circledS", [0x24C8]),
  ("circledast", [0x229B]), ("circledcirc", [0x229A]), ("circleddash", [0x229D]),
  ("cire", [0x2257]), ("cirfnint", [0x2A10]), ("cirmid", [0x2AEF]), ("cirscir", [0x29C2]),
  ("clubs", [0x2663]), ("clubsuit", [0x2663]), ("colon", [0x3A]), ("colone", [0x2254]),
  ("coloneq", [0x2254]), ("comma", [0x2C]), ("commat", [0x40]), ("comp", [0x2201]),
  ("compfn", [0x2218]), ("complement", [0x2201]), ("complexes", [0x2102]), ("cong", [0x2245]),
  ("congdot", [0x2A6D]), ("conint", [0x222E]), ("copf", [0x1D554]), ("coprod", [0x2210]),
  ("copy", [0xA9]), ("copysr", [0x2117]), ("crarr", [0x21B5]), ("cross", [0x2717]),
  ("cscr", [0x1D4B8]), ("csub", [0x2ACF]), ("csube", [0x2AD1]), ("csup", [0x2AD0]),
  ("csupe", [0x2AD2]), ("ctdot", [0x22EF]), ("cudarrl", [0x2938]), ("cudarrr", [0x2935]),
  ("cuepr", [0x22DE]), ("cuesc", [0x22DF]), ("cularr", [0x21B6]), ("cularrp", [0x293D]),
  ("cup", [0x222A]), ("cupbrcap", [0x2A48]), ("cupcap", [0x2A46]), ("cupcup", [0x2A4A]),
  ("cupdot", [0x228D]), ("cupor", [0x2A45]), ("cups", [0x222A, 0xFE00]), ("curarr", [0x21B7]),
  ("curarrm", [0x293C]), ("curlyeqprec", [0x22DE]), ("curlyeqsucc", [0x22DF]),
  ("curlyvee", [0x22CE]), ("curlywedge", [0x22CF]), ("curren", [0xA4]),
  ("curvearrowleft", [0x21B6]), ("curvearrowright", [0x21B7]), ("cuvee", [0x22CE]),
  ("cuwed", [0x22CF]), ("cwconint", [0x2232]), ("cwint", [0x2231]), ("cylcty", [0x232D])]

/-- Names that start with `d`. -/
def smallD : List (String × List Nat) := [
  ("dArr", [0x21D3]), ("dHar", [0x2965]), ("dagger", [0x2020]), ("daleth", [0x2138]),
  ("darr", [0x2193]), ("dash", [0x2010]), ("dashv", [0x22A3]), ("dbkarow", [0x290F]),
  ("dblac", [0x2DD]), ("dcaron", [0x10F]), ("dcy", [0x434]), ("dd", [0x2146]),
  ("ddagger", [0x2021]), ("ddarr", [0x21CA]), ("ddotseq", [0x2A77]), ("deg", [0xB0]),
  ("delta", [0x3B4]), ("demptyv", [0x29B1]), ("dfisht", [0x297F]), ("dfr", [0x1D521]),
  ("dharl", [0x21C3]), ("dharr", [0x21C2]), ("diam", [0x22C4]), ("diamond", [0x22C4]),
  ("diamondsuit", [0x2666]), ("diams", [0x2666]), ("die", [0xA8]), ("digamma", [0x3DD]),
  ("disin", [0x22F2]), ("div", [0xF7]), ("divide", [0xF7]), ("divideontimes", [0x22C7]),
  ("divonx", [0x22C7]), ("djcy", [0x452]), ("dlcorn", [0x231E]), ("dlcrop", [0x230D]),
  ("dollar", [0x24]), ("dopf", [0x1D555]), ("dot", [0x2D9]), ("doteq", [0x2250]),
  ("doteqdot", [0x2251]), ("dotminus", [0x2238]), ("dotplus", [0x2214]), ("dotsquare", [0x22A1]),
  ("doublebarwedge", [0x2306]), ("downarrow", [0x2193]), ("downdownarrows", [0x21CA]),
  ("downharpoonleft", [0x21C3]), ("downharpoonright", [0x21C2]), ("drbkarow", [0x2910]),
  ("drcorn", [0x231F]), ("drcrop", [0x230C]), ("dscr", [0x1D4B9]), ("dscy", [0x455]),
  ("dsol", [0x29F6]), ("dstrok", [0x111]), ("dtdot", [0x22F1]), ("dtri", [0x25BF]),
  ("dtrif", [0x25BE]), ("duarr", [0x21F5]), ("duhar", [0x296F]), ("dwangle", [0x29A6]),
  ("dzcy", [0x45F]), ("dzigrarr", [0x27FF])]

/-- Names that start with `e`. -/
def smallE : List (String × List Nat) := [
  ("eDDot", [0x2A77]), ("eDot", [0x2251]), ("eacute", [0xE9]), ("easter", [0x2A6E]),
  ("ecaron", [0x11B]), ("ecir", [0x2256]), ("ecirc", [0xEA]), ("ecolon", [0x2255]),
  ("ecy", [0x44D]), ("edot", [0x117]), ("ee", [0x2147]), ("efDot", [0x2252]), ("efr", [0x1D522]),
  ("eg", [0x2A9A]), ("egrave", [0xE8]), ("egs", [0x2A96]), ("egsdot", [0x2A98]), ("el", [0x2A99]),
  ("elinters", [0x23E7]), ("ell", [0x2113]), ("els", [0x2A95]), ("elsdot", [0x2A97]),
  ("emacr", [0x113]), ("empty", [0x2205]), ("emptyset", [0x2205]), ("emptyv", [0x2205]),
  ("emsp", [0x2003]), ("emsp13", [0x2004]), ("emsp14", [0x2005]), ("eng", [0x14B]),
  ("ensp", [0x2002]), ("eogon", [0x119]), ("eopf", [0x1D556]), ("epar", [0x22D5]),
  ("eparsl", [0x29E3]), ("eplus", [0x2A71]), ("epsi", [0x3B5]), ("epsilon", [0x3B5]),
  ("epsiv", [0x3F5]), ("eqcirc", [0x2256]), ("eqcolon", [0x2255]), ("eqsim", [0x2242]),
  ("eqslantgtr", [0x2A96]), ("eqslantless", [0x2A95]), ("equals", [0x3D]), ("equest", [0x225F]),
  ("equiv", [0x2261]), ("equivDD", [0x2A78]), ("eqvparsl", [0x29E5]), ("erDot", [0x2253]),
  ("erarr", [0x2971]), ("escr", [0x212F]), ("esdot", [0x2250]), ("esim", [0x2242]),
  ("eta", [0x3B7]), ("eth", [0xF0]), ("euml", [0xEB]), ("euro", [0x20AC]), ("excl", [0x21]),
  ("exist", [0x2203]), ("expectation", [0x2130]), ("exponentiale", [0x2147])]

/-- Names that start with `f`. -/
def smallF : List (String × List Nat) := [
  ("fallingdotseq", [0x2252]), ("fcy", [0x444]), ("female", [0x2640]), ("ffilig", [0xFB03]),
  ("fflig", [0xFB00]), ("ffllig", [0xFB04]), ("ffr", [0x1D523]), ("filig", [0xFB01]),
  ("fjlig", [0x66, 0x6A]), ("flat", [0x266D]), ("fllig", [0xFB02]), ("fltns", [0x25B1]),
  ("fnof", [0x192]), ("fopf", [0x1D557]), ("forall", [0x2200]), ("fork", [0x22D4]),
  ("forkv", [0x2AD9]), ("fpartint", [0x2A0D]), ("frac12", [0xBD]), ("frac13", [0x2153]),
  ("frac14", [0xBC]), ("frac15", [0x2155]), ("frac16", [0x2159]), ("frac18", [0x215B]),
  ("frac23", [0x2154]), ("frac25", [0x2156]), ("frac34", [0xBE]), ("frac35", [0x2157]),
  ("frac38", [0x215C]), ("frac45", [0x2158]), ("frac56", [0x215A]), ("frac58", [0x215D]),
  ("frac78", [0x215E]), ("frasl", [0x2044]), ("frown", [0x2322]), ("fscr", [0x1D4BB])]

/-- Names that start with `g`. -/
def smallG : List (String × List Nat) := [
  ("gE", [0x2267]), ("gEl", [0x2A8C]), ("gacute", [0x1F5]), ("gamma", [0x3B3]),
  ("gammad", [0x3DD]), ("gap", [0x2A86]), ("gbreve", [0x11F]), ("gcirc", [0x11D]),
  ("gcy", [0x433]), ("gdot", [0x121]), ("ge", [0x2265]), ("gel", [0x22DB]), ("geq", [0x2265]),
  ("geqq", [0x2267]), ("geqslant", [0x2A7E]), ("ges", [0x2A7E]), ("gescc", [0x2AA9]),
  ("gesdot", [0x2A80]), ("gesdoto", [0x2A82]), ("gesdotol", [0x2A84]), ("gesl", [0x22DB, 0xFE00]),
  ("gesles", [0x2A94]), ("gfr", [0x1D524]), ("gg", [0x226B]), ("ggg", [0x22D9]),
  ("gimel", [0x2137]), ("gjcy", [0x453]), ("gl", [0x2277]), ("glE", [0x2A92]), ("gla", [0x2AA5]),
  ("glj", [0x2AA4]), ("gnE", [0x2269]), ("gnap", [0x2A8A]), ("gnapprox", [0x2A8A]),
  ("gne", [0x2A88]), ("gneq", [0x2A88]), ("gneqq", [0x2269]), ("gnsim", [0x22E7]),
  ("gopf", [0x1D558]), ("grave", [0x60]), ("gscr", [0x210A]), ("gsim", [0x2273]),
  ("gsime", [0x2A8E]), ("gsiml", [0x2A90]), ("gt", [0x3E]), ("gtcc", [0x2AA7]),
  ("gtcir", [0x2A7A]), ("gtdot", [0x22D7]), ("gtlPar", [0x2995]), ("gtquest", [0x2A7C]),
  ("gtrapprox", [0x2A86]), ("gtrarr", [0x2978]), ("gtrdot", [0x22D7]), ("gtreqless", [0x22DB]),
  ("gtreqqless", [0x2A8C]), ("gtrless", [0x2277]), ("gtrsim", [0x2273]),
  ("gvertneqq", [0x2269, 0xFE00]), ("gvnE", [0x2269, 0xFE00])]

/-- Names that start with `h`. -/
def smallH : List (String × List Nat) := [
  ("hArr", [0x21D4]), ("hairsp", [0x200A]), ("half", [0xBD]), ("hamilt", [0x210B]),
  ("hardcy", [0x44A]), ("harr", [0x2194]), ("harrcir", [0x2948]), ("harrw", [0x21AD]),
  ("hbar", [0x210F]), ("hcirc", [0x125]), ("hearts", [0x2665]), ("heartsuit", [0x2665]),
  ("hellip", [0x2026]), ("hercon", [0x22B9]), ("hfr", [0x1D525]), ("hksearow", [0x2925]),
  ("hkswarow", [0x2926]), ("hoarr", [0x21FF]), ("homtht", [0x223B]), ("hookleftarrow", [0x21A9]),
  ("hookrightarrow", [0x21AA]), ("hopf", [0x1D559]), ("horbar", [0x2015]), ("hscr", [0x1D4BD]),
  ("hslash", [0x210F]), ("hstrok", [0x127]), ("hybull", [0x2043]), ("hyphen", [0x2010])]

/-- Names that start with `i`. -/
def smallI : List (String × List Nat) := [
  ("iacute", [0xED]), ("ic", [0x2063]), ("icirc", [0xEE]), ("icy", [0x438]), ("iecy", [0x435]),
  ("iexcl", [0xA1]), ("iff", [0x21D4]), ("ifr", [0x1D526]), ("igrave", [0xEC]), ("ii", [0x2148]),
  ("iiiint", [0x2A0C]), ("iiint", [0x222D]), ("iinfin", [0x29DC]), ("iiota", [0x2129]),
  ("ijlig", [0x133]), ("imacr", [0x12B]), ("image", [0x2111]), ("imagline", [0x2110]),
  ("imagpart", [0x2111]), ("imath", [0x131]), ("imof", [0x22B7]), ("imped", [0x1B5]),
  ("in", [0x2208]), ("incare", [0x2105]), ("infin", [0x221E]), ("infintie", [0x29DD]),
  ("inodot", [0x131]), ("int", [0x222B]), ("intcal", [0x22BA]), ("integers", [0x2124]),
  ("intercal", [0x22BA]), ("intlarhk", [0x2A17]), ("intprod", [0x2A3C]), ("iocy", [0x451]),
  ("iogon", [0x12F]), ("iopf", [0x1D55A]), ("iota", [0x3B9]), ("iprod", [0x2A3C]),
  ("iquest", [0xBF]), ("iscr", [0x1D4BE]), ("isin", [0x2208]), ("isinE", [0x22F9]),
  ("isindot", [0x22F5]), ("isins", [0x22F4]), ("isinsv", [0x22F3]), ("isinv", [0x2208]),
  ("it", [0x2062]), ("itilde", [0x129]), ("iukcy", [0x456]), ("iuml", [0xEF])]

/-- Names that start with `j`. -/
def smallJ : List (String × List Nat) := [
  ("jcirc", [0x135]), ("jcy", [0x439]), ("jfr", [0x1D527]), ("jmath", [0x237]),
  ("jopf", [0x1D55B]), ("jscr", [0x1D4BF]), ("jsercy", [0x458]), ("jukcy", [0x454])]

/-- Names that start with `k`. -/
def smallK : List (String × List Nat) := [
  ("kappa", [0x3BA]), ("kappav", [0x3F0]), ("kcedil", [0x137]), ("kcy", [0x43A]),
  ("kfr", [0x1D528]), ("kgreen", [0x138]), ("khcy", [0x445]), ("kjcy", [0x45C]),
  ("kopf", [0x1D55C]), ("kscr", [0x1D4C0])]

/-- Names that start with `l`. -/
def smallL : List (String × List Nat) := [
  ("lAarr", [0x21DA]), ("lArr", [0x21D0]), ("lAtail", [0x291B]), ("lBarr", [0x290E]),
  ("lE", [0x2266]), ("lEg", [0x2A8B]), ("lHar", [0x2962]), ("lacute", [0x13A]),
  ("laemptyv", [0x29B4]), ("lagran", [0x2112]), ("lambda", [0x3BB]), ("lang", [0x27E8]),
  ("langd", [0x2991]), ("langle", [0x27E8]), ("lap", [0x2A85]), ("laquo", [0xAB]),
  ("larr", [0x2190]), ("larrb", [0x21E4]), ("larrbfs", [0x291F]), ("larrfs", [0x291D]),
  ("larrhk", [0x21A9]), ("larrlp", [0x21AB]), ("larrpl", [0x2939]), ("larrsim", [0x2973]),
  ("larrtl", [0x21A2]), ("lat", [0x2AAB]), ("latail", [0x2919]), ("late", [0x2AAD]),
  ("lates", [0x2AAD, 0xFE00]), ("lbarr", [0x290C]), ("lbbrk", [0x2772]), ("lbrace", [0x7B]),
  ("lbrack", [0x5B]), ("lbrke", [0x298B]), ("lbrksld", [0x298F]), ("lbrkslu", [0x298D]),
  ("lcaron", [0x13E]), ("lcedil", [0x13C]), ("lceil", [0x2308]), ("lcub", [0x7B]),
  ("lcy", [0x43B]), ("ldca", [0x2936]), ("ldquo", [0x201C]), ("ldquor", [0x201E]),
  ("ldrdhar", [0x2967]), ("ldrushar", [0x294B]), ("ldsh", [0x21B2]), ("le", [0x2264]),
  ("leftarrow", [0x2190]), ("leftarrowtail", [0x21A2]), ("leftharpoondown", [0x21BD]),
  ("leftharpoonup", [0x21BC]), ("leftleftarrows", [0x21C7]), ("leftrightarrow", [0x2194]),
  ("leftrightarrows", [0x21C6]), ("leftrightharpoons", [0x21CB]),
  ("leftrightsquigarrow", [0x21AD]), ("leftthreetimes", [0x22CB]), ("leg", [0x22DA]),
  ("leq", [0x2264]), ("leqq", [0x2266]), ("leqslant", [0x2A7D]), ("les", [0x2A7D]),
  ("lescc", [0x2AA8]), ("lesdot", [0x2A7F]), ("lesdoto", [0x2A81]), ("lesdotor", [0x2A83]),
  ("lesg", [0x22DA, 0xFE00]), ("lesges", [0x2A93]), ("lessapprox", [0x2A85]),
  ("lessdot", [0x22D6]), ("lesseqgtr", [0x22DA]), ("lesseqqgtr", [0x2A8B]), ("lessgtr", [0x2276]),
  ("lesssim", [0x2272]), ("lfisht", [0x297C]), ("lfloor", [0x230A]), ("lfr", [0x1D529]),
  ("lg", [0x2276]), ("lgE", [0x2A91]), ("lhard", [0x21BD]), ("lharu", [0x21BC]),
  ("lharul", [0x296A]), ("lhblk", [0x2584]), ("ljcy", [0x459]), ("ll", [0x226A]),
  ("llarr", [0x21C7]), ("llcorner", [0x231E]), ("llhard", [0x296B]), ("lltri", [0x25FA]),
  ("lmidot", [0x140]), ("lmoust", [0x23B0]), ("lmoustache", [0x23B0]), ("lnE", [0x2268]),
  ("lnap", [0x2A89]), ("lnapprox", [0x2A89]), ("lne", [0x2A87]), ("lneq", [0x2A87]),
  ("lneqq", [0x2268]), ("lnsim", [0x22E6]), ("loang", [0x27EC]), ("loarr", [0x21FD]),
  ("lobrk", [0x27E6]), ("longleftarrow", [0x27F5]), ("longleftrightarrow", [0x27F7]),
  ("longmapsto", [0x27FC]), ("longrightarrow", [0x27F6]), ("looparrowleft", [0x21AB]),
  ("looparrowright", [0x21AC]), ("lopar", [0x2985]), ("lopf", [0x1D55D]), ("loplus", [0x2A2D]),
  ("lotimes", [0x2A34]), ("lowast", [0x2217]), ("lowbar", [0x5F]), ("loz", [0x25CA]),
  ("lozenge", [0x25CA]), ("lozf", [0x29EB]), ("lpar", [0x28]), ("lparlt", [0x2993]),
  ("lrarr", [0x21C6]), ("lrcorner", [0x231F]), ("lrhar", [0x21CB]), ("lrhard", [0x296D]),
  ("lrm", [0x200E]), ("lrtri", [0x22BF]), ("lsaquo", [0x2039]), ("lscr", [0x1D4C1]),
  ("lsh", [0x21B0]), ("lsim", [0x2272]), ("lsime", [0x2A8D]), ("lsimg", [0x2A8F]),
  ("lsqb", [0x5B]), ("lsquo", [0x2018]), ("lsquor", [0x201A]), ("lstrok", [0x142]),
  ("lt", [0x3C]), ("ltcc", [0x2AA6]), ("ltcir", [0x2A79]), ("ltdot", [0x22D6]),
  ("lthree", [0x22CB]), ("ltimes", [0x22C9]), ("ltlarr", [0x2976]), ("ltquest", [0x2A7B]),
  ("ltrPar", [0x2996]), ("ltri", [0x25C3]), ("ltrie", [0x22B4]), ("ltrif", [0x25C2]),
  ("lurdshar", [0x294A]), ("luruhar", [0x2966]), ("lvertneqq", [0x2268, 0xFE00]),
  ("lvnE", [0x2268, 0xFE00])]

/-- Names that start with a letter from a to l. -/
def smallFirst : List (String × List Nat) :=
  smallA ++ smallB ++ smallC ++ smallD ++ smallE ++ smallF ++ smallG ++ smallH ++ smallI ++
    smallJ ++ smallK ++ smallL

end Marginalia.Markdown.Entity
