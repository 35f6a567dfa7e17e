import Admission.Pattern.Basic
import Admission.Text.Items

/-!
The properties of characters that a pattern may ask for. Names are compared without regard to case,
blanks, dashes, underscores, characters beyond ASCII, and the letters "is" in front.
-/

namespace Admission.Pattern

def words (s : String) : List String := (Text.cutAt ' ' s.toList).map String.ofList

def booleanProperties : List String := words <|
  "ahex alpha alphabetic asciihexdigit bidic bidicontrol cased caseignorable " ++
  "changeswhencasefolded changeswhencasemapped changeswhenlowercased changeswhentitlecased " ++
  "changeswhenuppercased ci cwcf cwcm cwl cwt cwu dash defaultignorablecodepoint dep " ++
  "deprecated di dia diacritic ebase ecomp emod emoji emojicomponent emojimodifier " ++
  "emojimodifierbase emojipresentation epres ext extendedpictographic extender extpict " ++
  "graphemebase graphemeextend graphemelink grbase grext grlink hex hexdigit hyphen idc " ++
  "idcontinue ideo ideographic ids idsb idsbinaryoperator idst idstart idstrinaryoperator " ++
  "joinc joincontrol loe logicalorderexception lower lowercase math nchar " ++
  "noncharactercodepoint oalpha odi ogrext oidc oids olower omath otheralphabetic " ++
  "otherdefaultignorablecodepoint othergraphemeextend otheridcontinue otheridstart " ++
  "otherlowercase othermath otheruppercase oupper patsyn patternsyntax patternwhitespace " ++
  "patws pcm prependedconcatenationmark qmark quotationmark radical regionalindicator ri sd " ++
  "sentenceterminal softdotted space sterm term terminalpunctuation uideo unifiedideograph " ++
  "upper uppercase variationselector vs whitespace wspace xidc xidcontinue xids xidstart"

/-- Properties that cannot be asked for by their name alone. -/
def otherProperties : List String := words <|
  "age bc bidiclass bidim bidimirrored bidimirroringglyph bidipairedbracket " ++
  "bidipairedbrackettype blk block bmg bpb bpt canonicalcombiningclass casefolding ccc ce " ++
  "cf changeswhennfkccasefolded cjkaccountingnumeric cjkcompatibilityvariant cjkiicore " ++
  "cjkirggsource cjkirghsource cjkirgjsource cjkirgkpsource cjkirgksource cjkirgmsource " ++
  "cjkirgssource cjkirgtsource cjkirguksource cjkirgusource cjkirgvsource cjkothernumeric " ++
  "cjkprimarynumeric cjkrsunicode compex compositionexclusion cwkcf decompositionmapping " ++
  "decompositiontype dm dt ea eastasianwidth equideo equivalentunifiedideograph " ++
  "expandsonnfc expandsonnfd expandsonnfkc expandsonnfkd fcnfkc fcnfkcclosure " ++
  "fullcompositionexclusion gc gcb generalcategory graphemeclusterbreak hangulsyllabletype " ++
  "hst incb indicconjunctbreak indicpositionalcategory indicsyllabiccategory inpc insc isc " ++
  "isocomment jamoshortname jg joininggroup joiningtype jsn jt kaccountingnumeric " ++
  "kcompatibilityvariant kiicore kirggsource kirghsource kirgjsource kirgkpsource " ++
  "kirgksource kirgmsource kirgssource kirgtsource kirguksource kirgusource kirgvsource " ++
  "kothernumeric kprimarynumeric krsunicode lb lc linebreak lowercasemapping na na1 name " ++
  "namealias nfcqc nfcquickcheck nfdqc nfdquickcheck nfkccasefold nfkccf nfkcqc " ++
  "nfkcquickcheck nfkcscf nfkcsimplecasefold nfkdqc nfkdquickcheck nt numerictype " ++
  "numericvalue nv sb sc scf script scriptextensions scx sentencebreak sfc " ++
  "simplecasefolding simplelowercasemapping simpletitlecasemapping simpleuppercasemapping " ++
  "slc stc suc tc titlecasemapping uc unicode1name unicoderadicalstroke uppercasemapping " ++
  "urs verticalorientation vo wb wordbreak xonfc xonfd xonfkc xonfkd"

def categories : List String := words <|
  "any ascii assigned c casedletter cc cf closepunctuation cn cntrl co combiningmark " ++
  "connectorpunctuation control currencysymbol dashpunctuation decimalnumber digit " ++
  "enclosingmark finalpunctuation format initialpunctuation l lc letter letternumber " ++
  "lineseparator ll lm lo lowercaseletter lt lu m mark mathsymbol mc me mn modifierletter " ++
  "modifiersymbol n nd nl no nonspacingmark number openpunctuation other otherletter " ++
  "othernumber otherpunctuation othersymbol p paragraphseparator pc pd pe pf pi po " ++
  "privateuse ps punct punctuation s sc separator sk sm so spaceseparator spacingmark " ++
  "symbol titlecaseletter unassigned uppercaseletter z zl zp zs"

def scripts : List String := words <|
  "adlam adlm aghb ahom anatolianhieroglyphs arab arabic armenian armi armn avestan avst " ++
  "bali balinese bamu bamum bass bassavah batak batk beng bengali bhaiksuki bhks bopo " ++
  "bopomofo brah brahmi brai braille bugi buginese buhd buhid cakm canadianaboriginal cans " ++
  "cari carian caucasianalbanian chakma cham cher cherokee chorasmian chrs common copt " ++
  "coptic cpmn cprt cuneiform cypriot cyprominoan cyrillic cyrl deseret deva devanagari " ++
  "diak divesakuru dogr dogra dsrt dupl duployan egyp egyptianhieroglyphs elba elbasan elym " ++
  "elymaic ethi ethiopic gara garay geor georgian glag glagolitic gong gonm goth gothic " ++
  "gran grantha greek grek gujarati gujr gukh gunjalagondi gurmukhi guru gurungkhema han " ++
  "hang hangul hani hanifirohingya hano hanunoo hatr hatran hebr hebrew hira hiragana hluw " ++
  "hmng hmnp hung imperialaramaic inherited inscriptionalpahlavi inscriptionalparthian ital " ++
  "java javanese kaithi kali kana kannada katakana kawi kayahli khar kharoshthi " ++
  "khitansmallscript khmer khmr khoj khojki khudawadi kiratrai kits knda krai kthi lana lao " ++
  "laoo latin latn lepc lepcha limb limbu lina linb lineara linearb lisu lyci lycian lydi " ++
  "lydian mahajani mahj maka makasar malayalam mand mandaic mani manichaean marc marchen " ++
  "masaramgondi medefaidrin medf meeteimayek mend mendekikakui merc mero meroiticcursive " ++
  "meroitichieroglyphs miao mlym modi mong mongolian mro mroo mtei mult multani myanmar " ++
  "mymr nabataean nagm nagmundari nand nandinagari narb nbat newa newtailue nko nkoo nshu " ++
  "nushu nyiakengpuachuehmong ogam ogham olchiki olck oldhungarian olditalic " ++
  "oldnortharabian oldpermic oldpersian oldsogdian oldsoutharabian oldturkic olduyghur " ++
  "olonal onao oriya orkh orya osage osge osma osmanya ougr pahawhhmong palm palmyrene pauc " ++
  "paucinhau perm phag phagspa phli phlp phnx phoenician plrd prti psalterpahlavi qaac qaai " ++
  "rejang rjng rohg runic runr samaritan samr sarb saur saurashtra sgnw sharada shavian " ++
  "shaw shrd sidd siddham signwriting sind sinh sinhala sogd sogdian sogo sora sorasompeng " ++
  "soyo soyombo sund sundanese sunu sunuwar sylo sylotinagri syrc syriac tagalog tagb " ++
  "tagbanwa taile taitham taiviet takr takri tale talu tamil taml tang tangsa tangut tavt " ++
  "telu telugu tfng tglg thaa thaana thai tibetan tibt tifinagh tirh tirhuta tnsa todhri " ++
  "todr toto tulutigalari tutg ugar ugaritic vai vaii vith vithkuqi wancho wara warangciti " ++
  "wcho xpeo xsux yezi yezidi yi yiii zanabazarsquare zanb zinh zyyy"

def ages : List String := words <|
  "1.1 2.0 2.1 3.0 3.1 3.2 4.0 4.1 5.0 5.1 5.2 6.0 6.1 6.2 6.3 7.0 8.0 9.0 10.0 11.0 12.0 " ++
  "12.1 13.0 14.0 15.0 15.1 16.0 v11 v20 v21 v30 v31 v32 v40 v41 v50 v51 v52 v60 v61 v62 " ++
  "v63 v70 v80 v90 v100 v110 v120 v121 v130 v140 v150 v151 v160"

def graphemeBreaks : List String := words <|
  "cn control cr ex extend l lf lv lvt pp prepend regionalindicator ri sm spacingmark t v " ++
  "zwj"

def wordBreaks : List String := words <|
  "aletter cr doublequote dq ex extend extendnumlet fo format hebrewletter hl ka katakana " ++
  "le lf mb midletter midnum midnumlet ml mn newline nl nu numeric regionalindicator ri " ++
  "singlequote sq wsegspace zwj"

def sentenceBreaks : List String := words <|
  "at aterm cl close cr ex extend fo format le lf lo lower nu numeric oletter sc scontinue " ++
  "se sep sp st sterm up upper"

/-- The form in which names are compared. -/
def normalName (cs : List Char) : String :=
  let (hasIs, body) :=
    match cs with
    | a :: b :: rest => if a.toLower = 'i' ∧ b.toLower = 's' then (true, rest) else (false, cs)
    | _ => (false, cs)
  let kept := body.filter fun c => c ≠ ' ' ∧ c ≠ '_' ∧ c ≠ '-' ∧ c.toNat < 0x80
  let name := String.ofList (kept.map Char.toLower)
  if hasIs ∧ name = "c" then "isc" else name

/-- Whether a name alone stands for a property, a general category or a script. A category goes
before a property where three short names mean both. -/
def isKnownName (cs : List Char) : Bool :=
  let name := normalName cs
  if booleanProperties.contains name then true
  else if otherProperties.contains name ∧ name ≠ "cf" ∧ name ≠ "sc" ∧ name ≠ "lc" then false
  else categories.contains name || scripts.contains name

def isKnownValue (property value : List Char) : Bool :=
  let property := normalName property
  let value := normalName value
  if property = "gc" ∨ property = "generalcategory" then categories.contains value
  else if ["sc", "script", "scx", "scriptextensions"].contains property then scripts.contains value
  else if property = "age" then ages.contains value
  else if property = "gcb" ∨ property = "graphemeclusterbreak" then graphemeBreaks.contains value
  else if property = "wb" ∨ property = "wordbreak" then wordBreaks.contains value
  else if property = "sb" ∨ property = "sentencebreak" then sentenceBreaks.contains value
  else false

def PropertyQuery.isKnown : PropertyQuery → Bool
  | .named name => isKnownName name
  | .valued property value => isKnownValue property value

end Admission.Pattern
