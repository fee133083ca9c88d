/-
The names of the code points from 1D000 to 1FFFF, in hexadecimal: music,
mathematical alphabets, games, pictographs.
-/
import Highlight.Unicode.Name.Run

namespace Highlight.Unicode

/-- Names from the musical notations to the pictographs. -/
def namesOfPictures : List NameRun :=
  [⟨0x1D000, ["0BYZANTINE MUSICAL SYMBOL PSILI;3DASEIA;3PERISPOMENI;",
      "3OXEIA EKFONITIKON;4DIPLI;3VAREIA EKFONITIKON;4DIPLI;3KATHISTI;",
      "3SYRMATIKI;3PARAKLITIKI;3YPOKRISIS;4DIPLI;3KREMASTI;",
      "3APESO EKFONITIKON;3EXO EKFONITIKON;3TELEIA;3KENTIMATA;3APOSTROFOS;",
      "4DIPLI;3SYNEVMA;3THITA;3OLIGON ARCHAION;3GORGON ARCHAION;3PSILON;",
      "3CHAMILON;3VATHY;3ISON ARCHAION;3KENTIMA ARCHAION;",
      "3KENTIMATA ARCHAION;3SAXIMATA;3PARICHON;3STAVROS APODEXIA;",
      "3OXEIAI ARCHAION;3VAREIAI ARCHAION;3APODERMA ARCHAION;3APOTHEMA;",
      "3KLASMA;3REVMA;3PIASMA ARCHAION;3TINAGMA;3ANATRICHISMA;3SEISMA;",
      "3SYNAGMA ARCHAION;4META STAVROU;3OYRANISMA ARCHAION;3THEMA;3LEMOI;",
      "3DYO;3TRIA;3TESSERA;3KRATIMATA;3APESO EXO NEO;3FTHORA ARCHAION;",
      "3IMIFTHORA;3TROMIKON ARCHAION;3KATAVA TROMIKON;3PELASTON;3PSIFISTON;",
      "3KONTEVMA;3CHOREVMA ARCHAION;3RAPISMA;3PARAKALESMA ARCHAION;",
      "3PARAKLITIKI ARCHAION;3ICHADIN;3NANA;3PETASMA;3KONTEVMA ALLO;",
      "3TROMIKON ALLO;3STRAGGISMATA;3GRONTHISMATA;3ISON NEO;3OLIGON NEO;",
      "3OXEIA NEO;3PETASTI;3KOUFISMA;3PETASTOKOUFISMA;3KRATIMOKOUFISMA;",
      "3PELASTON NEO;3KENTIMATA NEO ANO;3KENTIMA NEO ANO;3YPSILI;",
      "3APOSTROFOS NEO;3APOSTROFOI SYNDESMOS NEO;3YPORROI;3KRATIMOYPORROON;",
      "3ELAFRON;3CHAMILI;3MIKRON ISON;3VAREIA NEO;3PIASMA NEO;",
      "3PSIFISTON NEO;3OMALON;3ANTIKENOMA;3LYGISMA;3PARAKLITIKI NEO;",
      "3PARAKALESMA NEO;3ETERON PARAKALESMA;3KYLISMA;3ANTIKENOKYLISMA;",
      "3TROMIKON NEO;3EKSTREPTON;3SYNAGMA NEO;3SYRMA;3CHOREVMA NEO;",
      "3EPEGERMA;3SEISMA NEO;3XIRON KLASMA;3TROMIKOPSIFISTON;",
      "3PSIFISTOLYGISMA;3TROMIKOLYGISMA;3TROMIKOPARAKALESMA;",
      "3PSIFISTOPARAKALESMA;3TROMIKOSYNAGMA;3PSIFISTOSYNAGMA;",
      "3GORGOSYNTHETON;3ARGOSYNTHETON;3ETERON ARGOSYNTHETON;3OYRANISMA NEO;",
      "3THEMATISMOS ESO;4EXO;3THEMA APLOUN;3THES KAI APOTHES;3KATAVASMA;",
      "3ENDOFONON;3YFEN KATO;4ANO;3STAVROS;3KLASMA ANO;3DIPLI ARCHAION;",
      "3KRATIMA ARCHAION;4ALLO;4NEO;3APODERMA NEO;3APLI;3DIPLI;3TRIPLI;",
      "3TETRAPLI;3KORONIS;3LEIMMA ENOS CHRONOU;4DYO CHRONON;4TRION CHRONON;",
      "4TESSARON CHRONON;4IMISEOS CHRONOU;3GORGON NEO ANO;",
      "4PARESTIGMENON ARISTERA;5DEXIA;3DIGORGON;",
      "4PARESTIGMENON ARISTERA KATO;6ANO;5DEXIA;3TRIGORGON;3ARGON;",
      "3IMIDIARGON;3DIARGON;3AGOGI POLI ARGI;4ARGOTERI;4ARGI;4METRIA;4MESI;",
      "4GORGI;4GORGOTERI;4POLI GORGI;3MARTYRIA PROTOS ICHOS;",
      "4ALLI PROTOS ICHOS;4DEYTEROS ICHOS;4ALLI DEYTEROS ICHOS;",
      "4TRITOS ICHOS;4TRIFONIAS;4TETARTOS ICHOS;5LEGETOS ICHOS;",
      "4LEGETOS ICHOS;4PLAGIOS ICHOS;3ISAKIA TELOUS ICHIMATOS;",
      "3APOSTROFOI TELOUS ICHIMATOS;3FANEROSIS TETRAFONIAS;4MONOFONIAS;",
      "4DIFONIAS;3MARTYRIA VARYS ICHOS;4PROTOVARYS ICHOS;",
      "4PLAGIOS TETARTOS ICHOS;3GORTHMIKON N APLOUN;5DIPLOUN;",
      "3ENARXIS KAI FTHORA VOU;3IMIFONON;3IMIFTHORON;",
      "3FTHORA ARCHAION DEYTEROU ICHOU;4DIATONIKI PA;5NANA;4NAOS ICHOS;",
      "4DIATONIKI DI;4SKLIRON DIATONON DI;4DIATONIKI KE;5ZO;5NI KATO;6ANO;",
      "4MALAKON CHROMA DIFONIAS;6MONOFONIAS;3FHTORA SKLIRON CHROMA VASIS;",
      "3FTHORA SKLIRON CHROMA SYNAFI;4NENANO;3CHROA ZYGOS;4KLITON;4SPATHI;",
      "3FTHORA I YFESIS TETARTIMORION;4ENARMONIOS ANTIFONIA;",
      "3YFESIS TRITIMORION;3DIESIS TRITIMORION;4TETARTIMORION;",
      "4APLI DYO DODEKATA;4MONOGRAMMOS TESSERA DODEKATA;",
      "4DIGRAMMOS EX DODEKATA;4TRIGRAMMOS OKTO DODEKATA;",
      "3YFESIS APLI DYO DODEKATA;4MONOGRAMMOS TESSERA DODEKATA;",
      "4DIGRAMMOS EX DODEKATA;4TRIGRAMMOS OKTO DODEKATA;3GENIKI DIESIS;",
      "4YFESIS;3DIASTOLI APLI MIKRI;5MEGALI;4DIPLI;4THESEOS;",
      "3SIMANSIS THESEOS;5DISIMOU;5TRISIMOU;5TETRASIMOU;4ARSEOS;5DISIMOU;",
      "5TRISIMOU;5TETRASIMOU;3DIGRAMMA GG;3DIFTOGGOS OU;3STIGMA;",
      "3ARKTIKO PA;4VOU;4GA;4DI;4KE;4ZO;4NI;3KENTIMATA NEO MESO;",
      "3KENTIMA NEO MESO;3KENTIMATA NEO KATO;3KENTIMA NEO KATO;",
      "3KLASMA KATO;3GORGON NEO KATO"]⟩,
   ⟨0x1D100, ["0MUSICAL SYMBOL SINGLE BARLINE;2DOUBLE BARLINE;",
      "2FINAL BARLINE;2REVERSE FINAL BARLINE;2DASHED BARLINE;",
      "2SHORT BARLINE;2LEFT REPEAT SIGN;2RIGHT REPEAT SIGN;2REPEAT DOTS;",
      "2DAL SEGNO;2DA CAPO;2SEGNO;2CODA;2REPEATED FIGURE-1;3FIGURE-2;",
      "3FIGURE-3;2FERMATA;3BELOW;2BREATH MARK;2CAESURA;2BRACE;2BRACKET;",
      "2ONE-LINE STAFF;2TWO-LINE STAFF;2THREE-LINE STAFF;2FOUR-LINE STAFF;",
      "2FIVE-LINE STAFF;2SIX-LINE STAFF;2SIX-STRING FRETBOARD;",
      "2FOUR-STRING FRETBOARD;2G CLEF;4OTTAVA ALTA;5BASSA;2C CLEF;2F CLEF;",
      "4OTTAVA ALTA;5BASSA;2DRUM CLEF-1;3CLEF-2"]⟩,
   ⟨0x1D129, ["0MUSICAL SYMBOL MULTIPLE MEASURE REST;2DOUBLE SHARP;3FLAT;",
      "2FLAT UP;3DOWN;2NATURAL UP;3DOWN;2SHARP UP;3DOWN;",
      "2QUARTER TONE SHARP;4FLAT;2COMMON TIME;2CUT TIME;2OTTAVA ALTA;",
      "3BASSA;2QUINDICESIMA ALTA;3BASSA;2MULTI REST;2WHOLE REST;2HALF REST;",
      "2QUARTER REST;2EIGHTH REST;2SIXTEENTH REST;2THIRTY-SECOND REST;",
      "2SIXTY-FOURTH REST;2ONE HUNDRED TWENTY-EIGHTH REST;2X NOTEHEAD;",
      "2PLUS NOTEHEAD;2CIRCLE X NOTEHEAD;2SQUARE NOTEHEAD WHITE;4BLACK;",
      "2TRIANGLE NOTEHEAD UP WHITE;5BLACK;4LEFT WHITE;5BLACK;4RIGHT WHITE;",
      "5BLACK;4DOWN WHITE;5BLACK;4UP RIGHT WHITE;6BLACK;",
      "2MOON NOTEHEAD WHITE;4BLACK;2TRIANGLE-ROUND NOTEHEAD DOWN WHITE;",
      "5BLACK;2PARENTHESIS NOTEHEAD;2VOID NOTEHEAD;2NOTEHEAD BLACK;",
      "2NULL NOTEHEAD;2CLUSTER NOTEHEAD WHITE;4BLACK;2BREVE;2WHOLE NOTE;",
      "2HALF NOTE;2QUARTER NOTE;2EIGHTH NOTE;2SIXTEENTH NOTE;",
      "2THIRTY-SECOND NOTE;2SIXTY-FOURTH NOTE;",
      "2ONE HUNDRED TWENTY-EIGHTH NOTE;2COMBINING STEM;3SPRECHGESANG STEM;",
      "3TREMOLO-1;3TREMOLO-2;3TREMOLO-3;2FINGERED TREMOLO-1;3TREMOLO-2;",
      "3TREMOLO-3;2COMBINING AUGMENTATION DOT;3FLAG-1;3FLAG-2;3FLAG-3;",
      "3FLAG-4;3FLAG-5;2BEGIN BEAM;2END BEAM;2BEGIN TIE;2END TIE;",
      "2BEGIN SLUR;2END SLUR;2BEGIN PHRASE;2END PHRASE;2COMBINING ACCENT;",
      "3STACCATO;3TENUTO;3STACCATISSIMO;3MARCATO;3MARCATO-STACCATO;",
      "3ACCENT-STACCATO;3LOURE;2ARPEGGIATO UP;3DOWN;2COMBINING DOIT;3RIP;",
      "3FLIP;3SMEAR;3BEND;3DOUBLE TONGUE;3TRIPLE TONGUE;2RINFORZANDO;",
      "2SUBITO;2Z;2PIANO;2MEZZO;2FORTE;2CRESCENDO;2DECRESCENDO;",
      "2GRACE NOTE SLASH;4NO SLASH;2TR;2TURN;2INVERTED TURN;2TURN SLASH;",
      "3UP;2ORNAMENT STROKE-1;3STROKE-2;3STROKE-3;3STROKE-4;3STROKE-5;",
      "3STROKE-6;3STROKE-7;3STROKE-8;3STROKE-9;3STROKE-10;3STROKE-11;",
      "2HAUPTSTIMME;2NEBENSTIMME;2END OF STIMME;2DEGREE SLASH;",
      "2COMBINING DOWN BOW;3UP BOW;3HARMONIC;3SNAP PIZZICATO;2PEDAL MARK;",
      "3UP MARK;2HALF PEDAL MARK;2GLISSANDO UP;3DOWN;2WITH FINGERNAILS;",
      "2DAMP;3ALL;2MAXIMA;2LONGA;2BREVIS;2SEMIBREVIS WHITE;3BLACK;2MINIMA;",
      "3BLACK;2SEMIMINIMA WHITE;3BLACK;2FUSA WHITE;3BLACK;",
      "2LONGA PERFECTA REST;3IMPERFECTA REST;2BREVIS REST;2SEMIBREVIS REST;",
      "2MINIMA REST;2SEMIMINIMA REST;",
      "2TEMPUS PERFECTUM CUM PROLATIONE PERFECTA;6IMPERFECTA;",
      "6PERFECTA DIMINUTION-1;3IMPERFECTUM CUM PROLATIONE PERFECTA;",
      "6IMPERFECTA;7DIMINUTION-1;7DIMINUTION-2;7DIMINUTION-3;2CROIX;",
      "2GREGORIAN C CLEF;3F CLEF;2SQUARE B;2VIRGA;2PODATUS;2CLIVIS;",
      "2SCANDICUS;2CLIMACUS;2TORCULUS;2PORRECTUS;3FLEXUS;2SCANDICUS FLEXUS;",
      "2TORCULUS RESUPINUS;2PES SUBPUNCTIS;2KIEVAN C CLEF;3END OF PIECE;",
      "3FINAL NOTE;3RECITATIVE MARK;3WHOLE NOTE;3HALF NOTE;",
      "3QUARTER NOTE STEM DOWN;6UP;3EIGHTH NOTE STEM DOWN;6UP;3FLAT SIGN;",
      "2SORI;2KORON"]⟩,
   ⟨0x1D200, ["0GREEK VOCAL NOTATION SYMBOL-1;3SYMBOL-2;3SYMBOL-3;",
      "3SYMBOL-4;3SYMBOL-5;3SYMBOL-6;3SYMBOL-7;3SYMBOL-8;3SYMBOL-9;",
      "3SYMBOL-10;3SYMBOL-11;3SYMBOL-12;3SYMBOL-13;3SYMBOL-14;3SYMBOL-15;",
      "3SYMBOL-16;3SYMBOL-17;3SYMBOL-18;3SYMBOL-19;3SYMBOL-20;3SYMBOL-21;",
      "3SYMBOL-22;3SYMBOL-23;3SYMBOL-24;3SYMBOL-50;3SYMBOL-51;3SYMBOL-52;",
      "3SYMBOL-53;3SYMBOL-54;1INSTRUMENTAL NOTATION SYMBOL-1;3SYMBOL-2;",
      "3SYMBOL-4;3SYMBOL-5;3SYMBOL-7;3SYMBOL-8;3SYMBOL-11;3SYMBOL-12;",
      "3SYMBOL-13;3SYMBOL-14;3SYMBOL-17;3SYMBOL-18;3SYMBOL-19;3SYMBOL-23;",
      "3SYMBOL-24;3SYMBOL-25;3SYMBOL-26;3SYMBOL-27;3SYMBOL-29;3SYMBOL-30;",
      "3SYMBOL-32;3SYMBOL-36;3SYMBOL-37;3SYMBOL-38;3SYMBOL-39;3SYMBOL-40;",
      "3SYMBOL-42;3SYMBOL-43;3SYMBOL-45;3SYMBOL-47;3SYMBOL-48;3SYMBOL-49;",
      "3SYMBOL-50;3SYMBOL-51;3SYMBOL-52;3SYMBOL-53;3SYMBOL-54;",
      "0COMBINING GREEK MUSICAL TRISEME;3TETRASEME;3PENTASEME;",
      "0GREEK MUSICAL LEIMMA"]⟩,
   ⟨0x1D2E0, ["0MAYAN NUMERAL ZERO;2ONE;2TWO;2THREE;2FOUR;2FIVE;2SIX;",
      "2SEVEN;2EIGHT;2NINE;2TEN;2ELEVEN;2TWELVE;2THIRTEEN;2FOURTEEN;",
      "2FIFTEEN;2SIXTEEN;2SEVENTEEN;2EIGHTEEN;2NINETEEN"]⟩,
   ⟨0x1D300, ["0MONOGRAM FOR EARTH;0DIGRAM FOR HEAVENLY EARTH;2HUMAN EARTH;",
      "2EARTHLY HEAVEN;3HUMAN;2EARTH;0TETRAGRAM FOR CENTRE;2FULL CIRCLE;",
      "2MIRED;2BARRIER;2KEEPING SMALL;2CONTRARIETY;2ASCENT;2OPPOSITION;",
      "2BRANCHING OUT;2DEFECTIVENESS OR DISTORTION;2DIVERGENCE;",
      "2YOUTHFULNESS;2INCREASE;2PENETRATION;2REACH;2CONTACT;2HOLDING BACK;",
      "2WAITING;2FOLLOWING;2ADVANCE;2RELEASE;2RESISTANCE;2EASE;2JOY;",
      "2CONTENTION;2ENDEAVOUR;2DUTIES;2CHANGE;2DECISIVENESS;",
      "2BOLD RESOLUTION;2PACKING;2LEGION;2CLOSENESS;2KINSHIP;2GATHERING;",
      "2STRENGTH;2PURITY;2FULLNESS;2RESIDENCE;2LAW OR MODEL;2RESPONSE;",
      "2GOING TO MEET;2ENCOUNTERS;2STOVE;2GREATNESS;2ENLARGEMENT;2PATTERN;",
      "2RITUAL;2FLIGHT;2VASTNESS OR WASTING;2CONSTANCY;2MEASURE;2ETERNITY;",
      "2UNITY;2DIMINISHMENT;2CLOSED MOUTH;2GUARDEDNESS;2GATHERING IN;",
      "2MASSING;2ACCUMULATION;2EMBELLISHMENT;2DOUBT;2WATCH;2SINKING;2INNER;",
      "2DEPARTURE;2DARKENING;2DIMMING;2EXHAUSTION;2SEVERANCE;2STOPPAGE;",
      "2HARDNESS;2COMPLETION;2CLOSURE;2FAILURE;2AGGRAVATION;2COMPLIANCE;",
      "2ON THE VERGE;2DIFFICULTIES;2LABOURING;2FOSTERING"]⟩,
   ⟨0x1D360, ["0COUNTING ROD UNIT DIGIT ONE;4TWO;4THREE;4FOUR;4FIVE;4SIX;",
      "4SEVEN;4EIGHT;4NINE;2TENS DIGIT ONE;4TWO;4THREE;4FOUR;4FIVE;4SIX;",
      "4SEVEN;4EIGHT;4NINE;0IDEOGRAPHIC TALLY MARK ONE;3TWO;3THREE;3FOUR;",
      "3FIVE;0TALLY MARK ONE;2FIVE"]⟩,
   ⟨0x1D400, ["0MATHEMATICAL BOLD CAPITAL A;3B;3C;3D;3E;3F;3G;3H;3I;3J;3K;",
      "3L;3M;3N;3O;3P;3Q;3R;3S;3T;3U;3V;3W;3X;3Y;3Z;2SMALL A;3B;3C;3D;3E;",
      "3F;3G;3H;3I;3J;3K;3L;3M;3N;3O;3P;3Q;3R;3S;3T;3U;3V;3W;3X;3Y;3Z;",
      "1ITALIC CAPITAL A;3B;3C;3D;3E;3F;3G;3H;3I;3J;3K;3L;3M;3N;3O;3P;3Q;",
      "3R;3S;3T;3U;3V;3W;3X;3Y;3Z;2SMALL A;3B;3C;3D;3E;3F;3G"]⟩,
   ⟨0x1D456, ["0MATHEMATICAL ITALIC SMALL I;3J;3K;3L;3M;3N;3O;3P;3Q;3R;3S;",
      "3T;3U;3V;3W;3X;3Y;3Z;1BOLD ITALIC CAPITAL A;4B;4C;4D;4E;4F;4G;4H;4I;",
      "4J;4K;4L;4M;4N;4O;4P;4Q;4R;4S;4T;4U;4V;4W;4X;4Y;4Z;3SMALL A;4B;4C;",
      "4D;4E;4F;4G;4H;4I;4J;4K;4L;4M;4N;4O;4P;4Q;4R;4S;4T;4U;4V;4W;4X;4Y;",
      "4Z;1SCRIPT CAPITAL A"]⟩,
   ⟨0x1D49E, ["0MATHEMATICAL SCRIPT CAPITAL C;3D"]⟩,
   ⟨0x1D4A2, ["0MATHEMATICAL SCRIPT CAPITAL G"]⟩,
   ⟨0x1D4A5, ["0MATHEMATICAL SCRIPT CAPITAL J;3K"]⟩,
   ⟨0x1D4A9, ["0MATHEMATICAL SCRIPT CAPITAL N;3O;3P;3Q"]⟩,
   ⟨0x1D4AE, ["0MATHEMATICAL SCRIPT CAPITAL S;3T;3U;3V;3W;3X;3Y;3Z;",
      "2SMALL A;3B;3C;3D"]⟩,
   ⟨0x1D4BB, ["0MATHEMATICAL SCRIPT SMALL F"]⟩,
   ⟨0x1D4BD, ["0MATHEMATICAL SCRIPT SMALL H;3I;3J;3K;3L;3M;3N"]⟩,
   ⟨0x1D4C5, ["0MATHEMATICAL SCRIPT SMALL P;3Q;3R;3S;3T;3U;3V;3W;3X;3Y;3Z;",
      "1BOLD SCRIPT CAPITAL A;4B;4C;4D;4E;4F;4G;4H;4I;4J;4K;4L;4M;4N;4O;4P;",
      "4Q;4R;4S;4T;4U;4V;4W;4X;4Y;4Z;3SMALL A;4B;4C;4D;4E;4F;4G;4H;4I;4J;",
      "4K;4L;4M;4N;4O;4P;4Q;4R;4S;4T;4U;4V;4W;4X;4Y;4Z;1FRAKTUR CAPITAL A;",
      "3B"]⟩,
   ⟨0x1D507, ["0MATHEMATICAL FRAKTUR CAPITAL D;3E;3F;3G"]⟩,
   ⟨0x1D50D, ["0MATHEMATICAL FRAKTUR CAPITAL J;3K;3L;3M;3N;3O;3P;3Q"]⟩,
   ⟨0x1D516, ["0MATHEMATICAL FRAKTUR CAPITAL S;3T;3U;3V;3W;3X;3Y"]⟩,
   ⟨0x1D51E, ["0MATHEMATICAL FRAKTUR SMALL A;3B;3C;3D;3E;3F;3G;3H;3I;3J;3K;",
      "3L;3M;3N;3O;3P;3Q;3R;3S;3T;3U;3V;3W;3X;3Y;3Z;",
      "1DOUBLE-STRUCK CAPITAL A;3B"]⟩,
   ⟨0x1D53B, ["0MATHEMATICAL DOUBLE-STRUCK CAPITAL D;3E;3F;3G"]⟩,
   ⟨0x1D540, ["0MATHEMATICAL DOUBLE-STRUCK CAPITAL I;3J;3K;3L;3M"]⟩,
   ⟨0x1D546, ["0MATHEMATICAL DOUBLE-STRUCK CAPITAL O"]⟩,
   ⟨0x1D54A, ["0MATHEMATICAL DOUBLE-STRUCK CAPITAL S;3T;3U;3V;3W;3X;3Y"]⟩,
   ⟨0x1D552, ["0MATHEMATICAL DOUBLE-STRUCK SMALL A;3B;3C;3D;3E;3F;3G;3H;3I;",
      "3J;3K;3L;3M;3N;3O;3P;3Q;3R;3S;3T;3U;3V;3W;3X;3Y;3Z;",
      "1BOLD FRAKTUR CAPITAL A;4B;4C;4D;4E;4F;4G;4H;4I;4J;4K;4L;4M;4N;4O;",
      "4P;4Q;4R;4S;4T;4U;4V;4W;4X;4Y;4Z;3SMALL A;4B;4C;4D;4E;4F;4G;4H;4I;",
      "4J;4K;4L;4M;4N;4O;4P;4Q;4R;4S;4T;4U;4V;4W;4X;4Y;4Z;",
      "1SANS-SERIF CAPITAL A;3B;3C;3D;3E;3F;3G;3H;3I;3J;3K;3L;3M;3N;3O;3P;",
      "3Q;3R;3S;3T;3U;3V;3W;3X;3Y;3Z;2SMALL A;3B;3C;3D;3E;3F;3G;3H;3I;3J;",
      "3K;3L;3M;3N;3O;3P;3Q;3R;3S;3T;3U;3V;3W;3X;3Y;3Z;2BOLD CAPITAL A;4B;",
      "4C;4D;4E;4F;4G;4H;4I;4J;4K;4L;4M;4N;4O;4P;4Q;4R;4S;4T;4U;4V;4W;4X;",
      "4Y;4Z;3SMALL A;4B;4C;4D;4E;4F;4G;4H;4I;4J;4K;4L;4M;4N;4O;4P;4Q;4R;",
      "4S;4T;4U;4V;4W;4X;4Y;4Z;2ITALIC CAPITAL A;4B;4C;4D;4E;4F;4G;4H;4I;",
      "4J;4K;4L;4M;4N;4O;4P;4Q;4R;4S;4T;4U;4V;4W;4X;4Y;4Z;3SMALL A;4B;4C;",
      "4D;4E;4F;4G;4H;4I;4J;4K;4L;4M;4N;4O;4P;4Q;4R;4S;4T;4U;4V;4W;4X;4Y;",
      "4Z;2BOLD ITALIC CAPITAL A;5B;5C;5D;5E;5F;5G;5H;5I;5J;5K;5L;5M;5N;5O;",
      "5P;5Q;5R;5S;5T;5U;5V;5W;5X;5Y;5Z;4SMALL A;5B;5C;5D;5E;5F;5G;5H;5I;",
      "5J;5K;5L;5M;5N;5O;5P;5Q;5R;5S;5T;5U;5V;5W;5X;5Y;5Z;",
      "1MONOSPACE CAPITAL A;3B;3C;3D;3E;3F;3G;3H;3I;3J;3K;3L;3M;3N;3O;3P;",
      "3Q;3R;3S;3T;3U;3V;3W;3X;3Y;3Z;2SMALL A;3B;3C;3D;3E;3F;3G;3H;3I;3J;",
      "3K;3L;3M;3N;3O;3P;3Q;3R;3S;3T;3U;3V;3W;3X;3Y;3Z;",
      "1ITALIC SMALL DOTLESS I;4J"]⟩,
   ⟨0x1D6A8, ["0MATHEMATICAL BOLD CAPITAL ALPHA;3BETA;3GAMMA;3DELTA;",
      "3EPSILON;3ZETA;3ETA;3THETA;3IOTA;3KAPPA;3LAMDA;3MU;3NU;3XI;3OMICRON;",
      "3PI;3RHO;3THETA SYMBOL;3SIGMA;3TAU;3UPSILON;3PHI;3CHI;3PSI;3OMEGA;",
      "2NABLA;2SMALL ALPHA;3BETA;3GAMMA;3DELTA;3EPSILON;3ZETA;3ETA;3THETA;",
      "3IOTA;3KAPPA;3LAMDA;3MU;3NU;3XI;3OMICRON;3PI;3RHO;3FINAL SIGMA;",
      "3SIGMA;3TAU;3UPSILON;3PHI;3CHI;3PSI;3OMEGA;2PARTIAL DIFFERENTIAL;",
      "2EPSILON SYMBOL;2THETA SYMBOL;2KAPPA SYMBOL;2PHI SYMBOL;2RHO SYMBOL;",
      "2PI SYMBOL;1ITALIC CAPITAL ALPHA;3BETA;3GAMMA;3DELTA;3EPSILON;3ZETA;",
      "3ETA;3THETA;3IOTA;3KAPPA;3LAMDA;3MU;3NU;3XI;3OMICRON;3PI;3RHO;",
      "3THETA SYMBOL;3SIGMA;3TAU;3UPSILON;3PHI;3CHI;3PSI;3OMEGA;2NABLA;",
      "2SMALL ALPHA;3BETA;3GAMMA;3DELTA;3EPSILON;3ZETA;3ETA;3THETA;3IOTA;",
      "3KAPPA;3LAMDA;3MU;3NU;3XI;3OMICRON;3PI;3RHO;3FINAL SIGMA;3SIGMA;",
      "3TAU;3UPSILON;3PHI;3CHI;3PSI;3OMEGA;2PARTIAL DIFFERENTIAL;",
      "2EPSILON SYMBOL;2THETA SYMBOL;2KAPPA SYMBOL;2PHI SYMBOL;2RHO SYMBOL;",
      "2PI SYMBOL;1BOLD ITALIC CAPITAL ALPHA;4BETA;4GAMMA;4DELTA;4EPSILON;",
      "4ZETA;4ETA;4THETA;4IOTA;4KAPPA;4LAMDA;4MU;4NU;4XI;4OMICRON;4PI;4RHO;",
      "4THETA SYMBOL;4SIGMA;4TAU;4UPSILON;4PHI;4CHI;4PSI;4OMEGA;3NABLA;",
      "3SMALL ALPHA;4BETA;4GAMMA;4DELTA;4EPSILON;4ZETA;4ETA;4THETA;4IOTA;",
      "4KAPPA;4LAMDA;4MU;4NU;4XI;4OMICRON;4PI;4RHO;4FINAL SIGMA;4SIGMA;",
      "4TAU;4UPSILON;4PHI;4CHI;4PSI;4OMEGA;3PARTIAL DIFFERENTIAL;",
      "3EPSILON SYMBOL;3THETA SYMBOL;3KAPPA SYMBOL;3PHI SYMBOL;3RHO SYMBOL;",
      "3PI SYMBOL;1SANS-SERIF BOLD CAPITAL ALPHA;4BETA;4GAMMA;4DELTA;",
      "4EPSILON;4ZETA;4ETA;4THETA;4IOTA;4KAPPA;4LAMDA;4MU;4NU;4XI;4OMICRON;",
      "4PI;4RHO;4THETA SYMBOL;4SIGMA;4TAU;4UPSILON;4PHI;4CHI;4PSI;4OMEGA;",
      "3NABLA;3SMALL ALPHA;4BETA;4GAMMA;4DELTA;4EPSILON;4ZETA;4ETA;4THETA;",
      "4IOTA;4KAPPA;4LAMDA;4MU;4NU;4XI;4OMICRON;4PI;4RHO;4FINAL SIGMA;",
      "4SIGMA;4TAU;4UPSILON;4PHI;4CHI;4PSI;4OMEGA;3PARTIAL DIFFERENTIAL;",
      "3EPSILON SYMBOL;3THETA SYMBOL;3KAPPA SYMBOL;3PHI SYMBOL;3RHO SYMBOL;",
      "3PI SYMBOL;3ITALIC CAPITAL ALPHA;5BETA;5GAMMA;5DELTA;5EPSILON;5ZETA;",
      "5ETA;5THETA;5IOTA;5KAPPA;5LAMDA;5MU;5NU;5XI;5OMICRON;5PI;5RHO;",
      "5THETA SYMBOL;5SIGMA;5TAU;5UPSILON;5PHI;5CHI;5PSI;5OMEGA;4NABLA;",
      "4SMALL ALPHA;5BETA;5GAMMA;5DELTA;5EPSILON;5ZETA;5ETA;5THETA;5IOTA;",
      "5KAPPA;5LAMDA;5MU;5NU;5XI;5OMICRON;5PI;5RHO;5FINAL SIGMA;5SIGMA;",
      "5TAU;5UPSILON;5PHI;5CHI;5PSI;5OMEGA;4PARTIAL DIFFERENTIAL;",
      "4EPSILON SYMBOL;4THETA SYMBOL;4KAPPA SYMBOL;4PHI SYMBOL;4RHO SYMBOL;",
      "4PI SYMBOL;1BOLD CAPITAL DIGAMMA;2SMALL DIGAMMA"]⟩,
   ⟨0x1D7CE, ["0MATHEMATICAL BOLD DIGIT ZERO;3ONE;3TWO;3THREE;3FOUR;3FIVE;",
      "3SIX;3SEVEN;3EIGHT;3NINE;1DOUBLE-STRUCK DIGIT ZERO;3ONE;3TWO;3THREE;",
      "3FOUR;3FIVE;3SIX;3SEVEN;3EIGHT;3NINE;1SANS-SERIF DIGIT ZERO;3ONE;",
      "3TWO;3THREE;3FOUR;3FIVE;3SIX;3SEVEN;3EIGHT;3NINE;2BOLD DIGIT ZERO;",
      "4ONE;4TWO;4THREE;4FOUR;4FIVE;4SIX;4SEVEN;4EIGHT;4NINE;",
      "1MONOSPACE DIGIT ZERO;3ONE;3TWO;3THREE;3FOUR;3FIVE;3SIX;3SEVEN;",
      "3EIGHT;3NINE;0SIGNWRITING HAND-FIST INDEX;1HAND-CIRCLE INDEX;",
      "1HAND-CUP INDEX;1HAND-OVAL INDEX;1HAND-HINGE INDEX;",
      "1HAND-ANGLE INDEX;1HAND-FIST INDEX BENT;1HAND-CIRCLE INDEX BENT;",
      "1HAND-FIST THUMB UNDER INDEX BENT;2INDEX RAISED KNUCKLE;3CUPPED;",
      "3HINGED;4LOW;1HAND-CIRCLE INDEX HINGE;1HAND-FIST INDEX MIDDLE;",
      "1HAND-CIRCLE INDEX MIDDLE;1HAND-FIST INDEX MIDDLE BENT;",
      "4RAISED KNUCKLES;4HINGED;3UP MIDDLE HINGED;3HINGED MIDDLE UP;",
      "3MIDDLE CONJOINED;5INDEX BENT;5MIDDLE BENT;5CUPPED;5HINGED;4CROSSED;",
      "1HAND-CIRCLE INDEX MIDDLE CROSSED;1HAND-FIST MIDDLE BENT OVER INDEX;",
      "2INDEX BENT OVER MIDDLE;3MIDDLE THUMB;",
      "1HAND-CIRCLE INDEX MIDDLE THUMB;",
      "1HAND-FIST INDEX MIDDLE STRAIGHT THUMB BENT;4BENT THUMB STRAIGHT;",
      "4THUMB BENT;4HINGED SPREAD THUMB SIDE;3UP MIDDLE HINGED THUMB SIDE;",
      "7CONJOINED;3HINGED MIDDLE UP THUMB SIDE;",
      "3MIDDLE UP SPREAD THUMB FORWARD;4THUMB CUPPED;5CIRCLED;5HOOKED;",
      "5HINGED;2THUMB BETWEEN INDEX MIDDLE STRAIGHT;",
      "2INDEX MIDDLE CONJOINED THUMB SIDE;7CONJOINED;7BENT;",
      "2MIDDLE THUMB HOOKED INDEX UP;2INDEX THUMB HOOKED MIDDLE UP;",
      "3MIDDLE CONJOINED HINGED THUMB SIDE;4CROSSED THUMB SIDE;",
      "4CONJOINED THUMB FORWARD;5CUPPED THUMB FORWARD;",
      "2MIDDLE THUMB CUPPED INDEX UP;2INDEX THUMB CUPPED MIDDLE UP;",
      "2MIDDLE THUMB CIRCLED INDEX UP;6HINGED;",
      "2INDEX THUMB ANGLED OUT MIDDLE UP;5IN MIDDLE UP;4CIRCLED MIDDLE UP;",
      "3MIDDLE THUMB CONJOINED HINGED;5ANGLED OUT;5ANGLED;",
      "2MIDDLE THUMB ANGLED OUT INDEX UP;7CROSSED;5INDEX UP;",
      "2INDEX THUMB HOOKED MIDDLE HINGED;1HAND-FLAT FOUR FINGERS;4BENT;",
      "4HINGED;4CONJOINED;5SPLIT;1HAND-CLAW FOUR FINGERS CONJOINED;",
      "1HAND-FIST FOUR FINGERS CONJOINED BENT;",
      "1HAND-HINGE FOUR FINGERS CONJOINED;1HAND-FLAT FIVE FINGERS SPREAD;",
      "2HEEL FIVE FINGERS SPREAD;2FIVE FINGERS SPREAD FOUR BENT;",
      "2HEEL FIVE FINGERS SPREAD FOUR BENT;2FIVE FINGERS SPREAD BENT;",
      "2HEEL FIVE FINGERS SPREAD BENT;2FIVE FINGERS SPREAD THUMB FORWARD;",
      "1HAND-CUP FIVE FINGERS SPREAD;5OPEN;",
      "1HAND-HINGE FIVE FINGERS SPREAD OPEN;1HAND-OVAL FIVE FINGERS SPREAD;",
      "1HAND-FLAT FIVE FINGERS SPREAD HINGED;6THUMB SIDE;6NO THUMB;",
      "1HAND-FLAT;2BETWEEN PALM FACINGS;2HEEL;2THUMB SIDE;2HEEL THUMB SIDE;",
      "2THUMB BENT;3FORWARD;2SPLIT INDEX THUMB SIDE;3CENTRE;4THUMB SIDE;",
      "6BENT;3LITTLE;1HAND-CLAW;2THUMB SIDE;2NO THUMB;2THUMB FORWARD;",
      "1HAND-HOOK CURLICUE;1HAND-HOOK;1HAND-CUP OPEN;1HAND-CUP;",
      "2OPEN THUMB SIDE;2THUMB SIDE;2OPEN NO THUMB;2NO THUMB;",
      "2OPEN THUMB FORWARD;2THUMB FORWARD;1HAND-CURLICUE OPEN;",
      "1HAND-CURLICUE;1HAND-CIRCLE;1HAND-OVAL;2THUMB SIDE;2NO THUMB;",
      "2THUMB FORWARD;1HAND-HINGE OPEN;3THUMB FORWARD;1HAND-HINGE;2SMALL;",
      "2OPEN THUMB SIDE;2THUMB SIDE;2OPEN NO THUMB;2NO THUMB;",
      "2THUMB SIDE TOUCHING INDEX;3BETWEEN MIDDLE RING;1HAND-ANGLE;",
      "1HAND-FIST INDEX MIDDLE RING;1HAND-CIRCLE INDEX MIDDLE RING;",
      "1HAND-HINGE INDEX MIDDLE RING;1HAND-ANGLE INDEX MIDDLE RING;",
      "1HAND-HINGE LITTLE;1HAND-FIST INDEX MIDDLE RING BENT;5CONJOINED;",
      "1HAND-HINGE INDEX MIDDLE RING CONJOINED;1HAND-FIST LITTLE DOWN;",
      "4RIPPLE STRAIGHT;5CURVED;4OTHERS CIRCLED;3UP;2THUMB UNDER LITTLE UP;",
      "1HAND-CIRCLE LITTLE UP;1HAND-OVAL LITTLE UP;1HAND-ANGLE LITTLE UP;",
      "1HAND-FIST LITTLE RAISED KNUCKLE;3BENT;3TOUCHES THUMB;3THUMB;",
      "1HAND-HINGE LITTLE THUMB;1HAND-FIST LITTLE INDEX THUMB;",
      "1HAND-HINGE LITTLE INDEX THUMB;",
      "1HAND-ANGLE LITTLE INDEX THUMB INDEX THUMB OUT;6THUMB;",
      "1HAND-FIST LITTLE INDEX;1HAND-CIRCLE LITTLE INDEX;",
      "1HAND-HINGE LITTLE INDEX;1HAND-ANGLE LITTLE INDEX;",
      "1HAND-FIST INDEX MIDDLE LITTLE;1HAND-CIRCLE INDEX MIDDLE LITTLE;",
      "1HAND-HINGE INDEX MIDDLE LITTLE;2RING;",
      "1HAND-ANGLE INDEX MIDDLE LITTLE;",
      "1HAND-FIST INDEX MIDDLE CROSS LITTLE;",
      "1HAND-CIRCLE INDEX MIDDLE CROSS LITTLE;1HAND-FIST RING DOWN;",
      "1HAND-HINGE RING DOWN INDEX THUMB HOOK MIDDLE;",
      "1HAND-ANGLE RING DOWN MIDDLE THUMB INDEX CROSS;1HAND-FIST RING UP;",
      "3RAISED KNUCKLE;3LITTLE;1HAND-CIRCLE RING LITTLE;",
      "1HAND-OVAL RING LITTLE;1HAND-ANGLE RING LITTLE;",
      "1HAND-FIST RING MIDDLE;4CONJOINED;4RAISED KNUCKLES;3INDEX;3THUMB;",
      "1HAND-HOOK RING THUMB;1HAND-FIST INDEX RING LITTLE;",
      "1HAND-CIRCLE INDEX RING LITTLE;1HAND-CURLICUE INDEX RING LITTLE ON;",
      "1HAND-HOOK INDEX RING LITTLE OUT;5IN;5UNDER;",
      "1HAND-CUP INDEX RING LITTLE;1HAND-HINGE INDEX RING LITTLE;",
      "1HAND-ANGLE INDEX RING LITTLE OUT;4LITTLE;1HAND-FIST MIDDLE DOWN;",
      "1HAND-HINGE MIDDLE;1HAND-FIST MIDDLE UP;1HAND-CIRCLE MIDDLE UP;",
      "1HAND-FIST MIDDLE RAISED KNUCKLE;3UP THUMB SIDE;",
      "1HAND-HOOK MIDDLE THUMB;1HAND-FIST MIDDLE THUMB LITTLE;3LITTLE;",
      "3RING LITTLE;1HAND-CIRCLE MIDDLE RING LITTLE;",
      "1HAND-CURLICUE MIDDLE RING LITTLE ON;1HAND-CUP MIDDLE RING LITTLE;",
      "1HAND-HINGE MIDDLE RING LITTLE;1HAND-ANGLE MIDDLE RING LITTLE OUT;",
      "5IN;4LITTLE;1HAND-CIRCLE MIDDLE RING LITTLE BENT;",
      "1HAND-CLAW MIDDLE RING LITTLE CONJOINED;6SIDE;",
      "1HAND-HOOK MIDDLE RING LITTLE CONJOINED OUT;6IN;5CONJOINED;",
      "1HAND-HINGE INDEX HINGED;1HAND-FIST INDEX THUMB SIDE;",
      "1HAND-HINGE INDEX THUMB SIDE;",
      "1HAND-FIST INDEX THUMB SIDE THUMB DIAGONAL;6CONJOINED;6BENT;",
      "5INDEX BENT;5BOTH BENT;5INDEX HINGE;4FORWARD INDEX STRAIGHT;6BENT;",
      "4HOOK;4CURLICUE;4CURVE THUMB INSIDE;",
      "1HAND-CLAW INDEX THUMB CURVE THUMB INSIDE;",
      "1HAND-FIST INDEX THUMB CURVE THUMB UNDER;4CIRCLE;",
      "1HAND-CUP INDEX THUMB;4OPEN;1HAND-HINGE INDEX THUMB OPEN;4LARGE;",
      "3THUMB;4SMALL;1HAND-ANGLE INDEX THUMB OUT;4IN;3THUMB;",
      "1HAND-FIST THUMB;3HEEL;3SIDE DIAGONAL;4CONJOINED;4BENT;3FORWARD;",
      "3BETWEEN INDEX MIDDLE;4MIDDLE RING;4RING LITTLE;3UNDER TWO FINGERS;",
      "3OVER TWO FINGERS;3UNDER THREE FINGERS;4FOUR FINGERS;",
      "3OVER FOUR RAISED KNUCKLES;1HAND-FIST;2HEEL;1TOUCH SINGLE;2MULTIPLE;",
      "2BETWEEN;1GRASP SINGLE;2MULTIPLE;2BETWEEN;1STRIKE SINGLE;2MULTIPLE;",
      "2BETWEEN;1BRUSH SINGLE;2MULTIPLE;2BETWEEN;1RUB SINGLE;2MULTIPLE;",
      "2BETWEEN;1SURFACE SYMBOLS;2BETWEEN;1SQUEEZE LARGE SINGLE;",
      "2SMALL SINGLE;2LARGE MULTIPLE;2SMALL MULTIPLE;2SEQUENTIAL;",
      "1FLICK LARGE SINGLE;2SMALL SINGLE;2LARGE MULTIPLE;2SMALL MULTIPLE;",
      "2SEQUENTIAL;1SQUEEZE FLICK ALTERNATING;",
      "1MOVEMENT-HINGE UP DOWN LARGE;4SMALL;3SEQUENTIAL;2DOWN SEQUENTIAL;",
      "2UP DOWN ALTERNATING LARGE;5SMALL;2SIDE TO SIDE SCISSORS;",
      "1MOVEMENT-WALLPLANE FINGER CONTACT;",
      "1MOVEMENT-FLOORPLANE FINGER CONTACT;",
      "1MOVEMENT-WALLPLANE SINGLE STRAIGHT SMALL;4MEDIUM;4LARGE;4LARGEST;",
      "3WRIST FLEX;2DOUBLE STRAIGHT;3WRIST FLEX;3ALTERNATING;4WRIST FLEX;",
      "2CROSS;2TRIPLE STRAIGHT MOVEMENT;3WRIST FLEX;3ALTERNATING;",
      "4WRIST FLEX;2BEND SMALL;3MEDIUM;3LARGE;2CORNER SMALL;3MEDIUM;3LARGE;",
      "3ROTATION;2CHECK SMALL;3MEDIUM;3LARGE;2BOX SMALL;3MEDIUM;3LARGE;",
      "2ZIGZAG SMALL;3MEDIUM;3LARGE;2PEAKS SMALL;3MEDIUM;3LARGE;",
      "1TRAVEL-WALLPLANE ROTATION-WALLPLANE SINGLE;3DOUBLE;3ALTERNATING;",
      "2ROTATION-FLOORPLANE SINGLE;3DOUBLE;3ALTERNATING;2SHAKING;",
      "2ARM SPIRAL SINGLE;4DOUBLE;4TRIPLE;1MOVEMENT-DIAGONAL AWAY SMALL;",
      "3MEDIUM;3LARGE;3LARGEST;2TOWARDS SMALL;3MEDIUM;3LARGE;3LARGEST;",
      "2BETWEEN AWAY SMALL;4MEDIUM;4LARGE;4LARGEST;3TOWARDS SMALL;4MEDIUM;",
      "4LARGE;4LARGEST;1MOVEMENT-FLOORPLANE SINGLE STRAIGHT SMALL;4MEDIUM;",
      "4LARGE;4LARGEST;3WRIST FLEX;2DOUBLE STRAIGHT;3WRIST FLEX;",
      "3ALTERNATING;4WRIST FLEX;2CROSS;2TRIPLE STRAIGHT MOVEMENT;",
      "3WRIST FLEX;3ALTERNATING MOVEMENT;4WRIST FLEX;2BEND;2CORNER SMALL;",
      "3MEDIUM;3LARGE;2CHECK;2BOX SMALL;3MEDIUM;3LARGE;2ZIGZAG SMALL;",
      "3MEDIUM;3LARGE;2PEAKS SMALL;3MEDIUM;3LARGE;",
      "1TRAVEL-FLOORPLANE ROTATION-FLOORPLANE SINGLE;3DOUBLE;3ALTERNATING;",
      "2ROTATION-WALLPLANE SINGLE;3DOUBLE;3ALTERNATING;2SHAKING;",
      "1MOVEMENT-WALLPLANE CURVE QUARTER SMALL;4MEDIUM;4LARGE;4LARGEST;",
      "3HALF-CIRCLE SMALL;4MEDIUM;4LARGE;4LARGEST;",
      "3THREE-QUARTER CIRCLE SMALL;5MEDIUM;2HUMP SMALL;3MEDIUM;3LARGE;",
      "2LOOP SMALL;3MEDIUM;3LARGE;3SMALL DOUBLE;2WAVE CURVE DOUBLE SMALL;",
      "5MEDIUM;5LARGE;4TRIPLE SMALL;5MEDIUM;5LARGE;2CURVE THEN STRAIGHT;",
      "2CURVED CROSS SMALL;4MEDIUM;1ROTATION-WALLPLANE SINGLE;2DOUBLE;",
      "2ALTERNATE;1MOVEMENT-WALLPLANE SHAKING;2CURVE HITTING FRONT WALL;",
      "2HUMP HITTING FRONT WALL;2LOOP HITTING FRONT WALL;",
      "2WAVE HITTING FRONT WALL;",
      "1ROTATION-WALLPLANE SINGLE HITTING FRONT WALL;",
      "2DOUBLE HITTING FRONT WALL;2ALTERNATING HITTING FRONT WALL;",
      "1MOVEMENT-WALLPLANE CURVE HITTING CHEST;2HUMP HITTING CHEST;",
      "2LOOP HITTING CHEST;2WAVE HITTING CHEST;",
      "1ROTATION-WALLPLANE SINGLE HITTING CHEST;2DOUBLE HITTING CHEST;",
      "2ALTERNATING HITTING CHEST;",
      "1MOVEMENT-WALLPLANE WAVE DIAGONAL PATH SMALL;5MEDIUM;5LARGE;",
      "1MOVEMENT-FLOORPLANE CURVE HITTING CEILING SMALL;5LARGE;",
      "2HUMP HITTING CEILING SMALL DOUBLE;5LARGE DOUBLE;5SMALL TRIPLE;",
      "5LARGE TRIPLE;2LOOP HITTING CEILING SMALL SINGLE;5LARGE SINGLE;",
      "5SMALL DOUBLE;5LARGE DOUBLE;2WAVE HITTING CEILING SMALL;5LARGE;",
      "1ROTATION-FLOORPLANE SINGLE HITTING CEILING;2DOUBLE HITTING CEILING;",
      "2ALTERNATING HITTING CEILING;",
      "1MOVEMENT-FLOORPLANE CURVE HITTING FLOOR SMALL;5LARGE;",
      "2HUMP HITTING FLOOR SMALL DOUBLE;5LARGE DOUBLE;5TRIPLE SMALL TRIPLE;",
      "6LARGE TRIPLE;2LOOP HITTING FLOOR SMALL SINGLE;5LARGE SINGLE;",
      "5SMALL DOUBLE;5LARGE DOUBLE;2WAVE HITTING FLOOR SMALL;5LARGE;",
      "1ROTATION-FLOORPLANE SINGLE HITTING FLOOR;2DOUBLE HITTING FLOOR;",
      "2ALTERNATING HITTING FLOOR;1MOVEMENT-FLOORPLANE CURVE SMALL;3MEDIUM;",
      "3LARGE;3LARGEST;3COMBINED;2HUMP SMALL;2LOOP SMALL;2WAVE SNAKE;",
      "3SMALL;3LARGE;1ROTATION-FLOORPLANE SINGLE;2DOUBLE;2ALTERNATING;",
      "1MOVEMENT-FLOORPLANE SHAKING PARALLEL;",
      "1MOVEMENT-WALLPLANE ARM CIRCLE SMALL SINGLE;4MEDIUM SINGLE;",
      "4SMALL DOUBLE;4MEDIUM DOUBLE;",
      "1MOVEMENT-FLOORPLANE ARM CIRCLE HITTING WALL SMALL SINGLE;",
      "6MEDIUM SINGLE;6LARGE SINGLE;6SMALL DOUBLE;6MEDIUM DOUBLE;",
      "6LARGE DOUBLE;1MOVEMENT-WALLPLANE WRIST CIRCLE FRONT SINGLE;5DOUBLE;",
      "1MOVEMENT-FLOORPLANE WRIST CIRCLE HITTING WALL SINGLE;6DOUBLE;",
      "1MOVEMENT-WALLPLANE FINGER CIRCLES SINGLE;4DOUBLE;",
      "1MOVEMENT-FLOORPLANE FINGER CIRCLES HITTING WALL SINGLE;6DOUBLE;",
      "1DYNAMIC ARROWHEAD SMALL;3LARGE;2FAST;2SLOW;2TENSE;2RELAXED;",
      "2SIMULTANEOUS;3ALTERNATING;2EVERY OTHER TIME;2GRADUAL;1HEAD;2RIM;",
      "2MOVEMENT-WALLPLANE STRAIGHT;3TILT;2MOVEMENT-FLOORPLANE STRAIGHT;",
      "2MOVEMENT-WALLPLANE CURVE;2MOVEMENT-FLOORPLANE CURVE;",
      "2MOVEMENT CIRCLE;1FACE DIRECTION POSITION NOSE FORWARD TILTING;",
      "5UP OR DOWN;8TILTING;1EYEBROWS STRAIGHT UP;3NEUTRAL;3DOWN;",
      "1DREAMY EYEBROWS NEUTRAL DOWN;3DOWN NEUTRAL;3UP NEUTRAL;3NEUTRAL UP;",
      "1FOREHEAD NEUTRAL;2CONTACT;2WRINKLED;1EYES OPEN;2SQUEEZED;2CLOSED;",
      "1EYE BLINK SINGLE;3MULTIPLE;1EYES HALF OPEN;2WIDE OPEN;2HALF CLOSED;",
      "2WIDENING MOVEMENT;1EYE WINK;1EYELASHES UP;2DOWN;2FLUTTERING;",
      "1EYEGAZE-WALLPLANE STRAIGHT;3DOUBLE;3ALTERNATING;",
      "1EYEGAZE-FLOORPLANE STRAIGHT;3DOUBLE;3ALTERNATING;",
      "1EYEGAZE-WALLPLANE CURVED;1EYEGAZE-FLOORPLANE CURVED;",
      "1EYEGAZE-WALLPLANE CIRCLING;1CHEEKS PUFFED;2NEUTRAL;2SUCKED;",
      "1TENSE CHEEKS HIGH;3MIDDLE;3LOW;1EARS;1NOSE NEUTRAL;2CONTACT;",
      "2WRINKLES;2WIGGLES;1AIR BLOWING OUT;2SUCKING IN;",
      "2BLOW SMALL ROTATIONS;2SUCK SMALL ROTATIONS;1BREATH INHALE;2EXHALE;",
      "1MOUTH CLOSED NEUTRAL;3FORWARD;3CONTACT;2SMILE;3WRINKLED;3OPEN;",
      "2FROWN;3WRINKLED;3OPEN;2OPEN CIRCLE;3FORWARD;3WRINKLED;3OVAL;",
      "4WRINKLED;4YAWN;3RECTANGLE;4WRINKLED;4YAWN;2KISS;3FORWARD;3WRINKLED;",
      "2TENSE;3FORWARD;3SUCKED;1LIPS PRESSED TOGETHER;",
      "1LIP LOWER OVER UPPER;2UPPER OVER LOWER;1MOUTH CORNERS;",
      "2WRINKLES SINGLE;3DOUBLE;1TONGUE STICKING OUT FAR;2LICKING LIPS;",
      "2TIP BETWEEN LIPS;3TOUCHING INSIDE MOUTH;2INSIDE MOUTH RELAXED;",
      "2MOVES AGAINST CHEEK;2CENTRE STICKING OUT;3INSIDE MOUTH;1TEETH;",
      "2MOVEMENT;2ON TONGUE;4MOVEMENT;3LIPS;4MOVEMENT;2BITE LIPS;",
      "1MOVEMENT-WALLPLANE JAW;1MOVEMENT-FLOORPLANE JAW;1NECK;1HAIR;",
      "1EXCITEMENT;1SHOULDER HIP SPINE;3POSITIONS;",
      "1WALLPLANE SHOULDER HIP MOVE;1FLOORPLANE SHOULDER HIP MOVE;",
      "1SHOULDER TILTING FROM WAIST;1TORSO-WALLPLANE STRAIGHT STRETCH;",
      "2CURVED BEND;1TORSO-FLOORPLANE TWISTING;",
      "1UPPER BODY TILTING FROM HIP JOINTS;1LIMB COMBINATION;2LENGTH-1;",
      "2LENGTH-2;2LENGTH-3;2LENGTH-4;2LENGTH-5;2LENGTH-6;2LENGTH-7;1FINGER;",
      "1LOCATION-WALLPLANE SPACE;1LOCATION-FLOORPLANE SPACE;",
      "1LOCATION HEIGHT;2WIDTH;2DEPTH;2HEAD NECK;2TORSO;2LIMBS DIGITS;",
      "1COMMA;1FULL STOP;1SEMICOLON;1COLON;1PARENTHESIS"]⟩,
   ⟨0x1DA9B, ["0SIGNWRITING FILL MODIFIER-2;2MODIFIER-3;2MODIFIER-4;",
      "2MODIFIER-5;2MODIFIER-6"]⟩,
   ⟨0x1DAA1, ["0SIGNWRITING ROTATION MODIFIER-2;2MODIFIER-3;2MODIFIER-4;",
      "2MODIFIER-5;2MODIFIER-6;2MODIFIER-7;2MODIFIER-8;2MODIFIER-9;",
      "2MODIFIER-10;2MODIFIER-11;2MODIFIER-12;2MODIFIER-13;2MODIFIER-14;",
      "2MODIFIER-15;2MODIFIER-16"]⟩,
   ⟨0x1DF00, ["0LATIN SMALL LETTER FENG DIGRAPH WITH TRILL;",
      "3REVERSED SCRIPT G;1LETTER SMALL CAPITAL TURNED G;",
      "1SMALL LETTER REVERSED K;1LETTER SMALL CAPITAL L WITH BELT;",
      "1SMALL LETTER LEZH WITH RETROFLEX HOOK;3TURNED Y WITH BELT;",
      "3REVERSED ENG;3TURNED R WITH LONG LEG AND RETROFLEX HOOK;",
      "3T WITH HOOK AND RETROFLEX HOOK;",
      "1LETTER RETROFLEX CLICK WITH RETROFLEX HOOK;",
      "1SMALL LETTER ESH WITH DOUBLE BAR;7AND CURL;3TURNED T WITH CURL;",
      "1LETTER INVERTED GLOTTAL STOP WITH CURL;2STRETCHED C WITH CURL;",
      "2SMALL CAPITAL TURNED K;1SMALL LETTER L WITH FISHHOOK;",
      "3DEZH DIGRAPH WITH PALATAL HOOK;3L WITH BELT AND PALATAL HOOK;",
      "3ENG WITH PALATAL HOOK;3TURNED R WITH PALATAL HOOK;",
      "3R WITH FISHHOOK AND PALATAL HOOK;3TESH DIGRAPH WITH PALATAL HOOK;",
      "3EZH WITH PALATAL HOOK;3DEZH DIGRAPH WITH RETROFLEX HOOK;",
      "3I WITH STROKE AND RETROFLEX HOOK;3O WITH RETROFLEX HOOK;",
      "3TESH DIGRAPH WITH RETROFLEX HOOK;3C WITH RETROFLEX HOOK;",
      "3S WITH CURL"]⟩,
   ⟨0x1E000, ["0COMBINING GLAGOLITIC LETTER AZU;3BUKY;3VEDE;3GLAGOLI;",
      "3DOBRO;3YESTU;3ZHIVETE"]⟩,
   ⟨0x1E008, ["0COMBINING GLAGOLITIC LETTER ZEMLJA;3IZHE;3INITIAL IZHE;3I;",
      "3DJERVI;3KAKO;3LJUDIJE;3MYSLITE;3NASHI;3ONU;3POKOJI;3RITSI;3SLOVO;",
      "3TVRIDO;3UKU;3FRITU;3HERU"]⟩,
   ⟨0x1E01B, ["0COMBINING GLAGOLITIC LETTER SHTA;3TSI;3CHRIVI;3SHA;3YERU;",
      "3YERI;3YATI"]⟩,
   ⟨0x1E023, ["0COMBINING GLAGOLITIC LETTER YU;3SMALL YUS"]⟩,
   ⟨0x1E026, ["0COMBINING GLAGOLITIC LETTER YO;3IOTATED SMALL YUS;3BIG YUS;",
      "3IOTATED BIG YUS;3FITA"]⟩,
   ⟨0x1E100, ["0NYIAKENG PUACHUE HMONG LETTER MA;4TSA;4NTA;4TA;4HA;4NA;4XA;",
      "4NKA;4CA;4LA;4SA;4ZA;4NCA;4NTSA;4KA;4DA;4NYA;4NRA;4VA;4NTXA;4TXA;",
      "4FA;4RA;4QA;4YA;4NQA;4PA;4XYA;4NPA;4DLA;4NPLA;4HAH;4MLA;4PLA;4GA;",
      "4RRA;4A;4AA;4I;4U;4O;4OO;4E;4EE;4W"]⟩,
   ⟨0x1E130, ["0NYIAKENG PUACHUE HMONG TONE-B;3TONE-M;3TONE-J;3TONE-V;",
      "3TONE-S;3TONE-G;3TONE-D;3SIGN FOR PERSON;5THING;5LOCATION;5ANIMAL;",
      "5INVERTEBRATE;4XW XW;3SYLLABLE LENGTHENER"]⟩,
   ⟨0x1E140, ["0NYIAKENG PUACHUE HMONG DIGIT ZERO;4ONE;4TWO;4THREE;4FOUR;",
      "4FIVE;4SIX;4SEVEN;4EIGHT;4NINE"]⟩,
   ⟨0x1E14E, ["0NYIAKENG PUACHUE HMONG LOGOGRAM NYAJ;3CIRCLED CA"]⟩,
   ⟨0x1E290, ["0TOTO LETTER PA;2BA;2TA;2DA;2KA;2GA;2MA;2NA;2NGA;2SA;2CHA;",
      "2YA;2WA;2JA;2HA;2RA;2LA;2I;2BREATHY I;2IU;2BREATHY IU;2U;2E;",
      "2BREATHY E;2EO;2BREATHY EO;2O;2AE;2BREATHY AE;2A;1SIGN RISING TONE"]⟩,
   ⟨0x1E2C0, ["0WANCHO LETTER AA;2A;2BA;2CA;2DA;2GA;2YA;2PHA;2LA;2NA;2PA;",
      "2TA;2THA;2FA;2SA;2SHA;2JA;2ZA;2WA;2VA;2KA;2O;2AU;2RA;2MA;2KHA;2HA;",
      "2E;2I;2NGA;2U;2LLHA;2TSA;2TRA;2ONG;2AANG;2ANG;2ING;2ON;2EN;2AAN;",
      "2NYA;2UEN;2YIH;1TONE TUP;2TUPNI;2KOI;2KOINI;1DIGIT ZERO;2ONE;2TWO;",
      "2THREE;2FOUR;2FIVE;2SIX;2SEVEN;2EIGHT;2NINE"]⟩,
   ⟨0x1E2FF, ["0WANCHO NGUN SIGN"]⟩,
   ⟨0x1E7E0, ["0ETHIOPIC SYLLABLE HHYA;2HHYU;2HHYI;2HHYAA;2HHYEE;2HHYE;",
      "2HHYO"]⟩,
   ⟨0x1E7E8, ["0ETHIOPIC SYLLABLE GURAGE HHWA;2HHWI;2HHWEE;2HHWE"]⟩,
   ⟨0x1E7ED, ["0ETHIOPIC SYLLABLE GURAGE MWI;3MWEE"]⟩,
   ⟨0x1E7F0, ["0ETHIOPIC SYLLABLE GURAGE QWI;3QWEE;3QWE;3BWI;3BWEE;3KWI;",
      "3KWEE;3KWE;3GWI;3GWEE;3GWE;3FWI;3FWEE;3PWI;3PWEE"]⟩,
   ⟨0x1E800, ["0MENDE KIKAKUI SYLLABLE M001 KI;3M002 KA;3M003 KU;3M065 KEE;",
      "3M095 KE;3M076 KOO;3M048 KO;3M179 KUA;3M004 WI;3M005 WA;3M006 WU;",
      "3M126 WEE;3M118 WE;3M114 WOO;3M045 WO;3M194 WUI;3M143 WEI;3M061 WVI;",
      "3M049 WVA;3M139 WVE;3M007 MIN;3M008 MAN;3M009 MUN;3M059 MEN;",
      "3M094 MON;3M154 MUAN;3M189 MUEN;3M010 BI;3M011 BA;3M012 BU;",
      "3M150 BEE;3M097 BE;3M103 BOO;3M138 BO;3M013 I;3M014 A;3M015 U;",
      "3M163 EE;3M100 E;3M165 OO;3M147 O;3M137 EI;3M131 IN;3M135 IN;",
      "3M195 AN;3M178 EN;3M019 SI;3M020 SA;3M021 SU;3M162 SEE;3M116 SE;",
      "3M136 SOO;3M079 SO;3M196 SIA;3M025 LI;3M026 LA;3M027 LU;3M084 LEE;",
      "3M073 LE;3M054 LOO;3M153 LO;3M110 LONG LE;3M016 DI;3M017 DA;",
      "3M018 DU;3M089 DEE;3M180 DOO;3M181 DO;3M022 TI;3M023 TA;3M024 TU;",
      "3M091 TEE;3M055 TE;3M104 TOO;3M069 TO;3M028 JI;3M029 JA;3M030 JU;",
      "3M157 JEE;3M113 JE;3M160 JOO;3M063 JO;3M175 LONG JO;3M031 YI;",
      "3M032 YA;3M033 YU;3M109 YEE;3M080 YE;3M141 YOO;3M121 YO;3M034 FI;",
      "3M035 FA;3M036 FU;3M078 FEE;3M075 FE;3M133 FOO;3M088 FO;3M197 FUA;",
      "3M101 FAN;3M037 NIN;3M038 NAN;3M039 NUN;3M117 NEN;3M169 NON;",
      "3M176 HI;3M041 HA;3M186 HU;3M040 HEE;3M096 HE;3M042 HOO;3M140 HO;",
      "3M083 HEEI;3M128 HOOU;3M053 HIN;3M130 HAN;3M087 HUN;3M052 HEN;",
      "3M193 HON;3M046 HUAN;3M090 NGGI;3M043 NGGA;3M082 NGGU;3M115 NGGEE;",
      "3M146 NGGE;3M156 NGGOO;3M120 NGGO;3M159 NGGAA;3M127 NGGUA;",
      "3M086 LONG NGGE;3M106 LONG NGGOO;3M183 LONG NGGO;3M155 GI;3M111 GA;",
      "3M168 GU;3M190 GEE;3M166 GUEI;3M167 GUAN;3M184 NGEN;3M057 NGON;",
      "3M177 NGUAN;3M068 PI;3M099 PA;3M050 PU;3M081 PEE;3M051 PE;3M102 POO;",
      "3M066 PO;3M145 MBI;3M062 MBA;3M122 MBU;3M047 MBEE;3M188 MBEE;",
      "3M072 MBE;3M172 MBOO;3M174 MBO;3M187 MBUU;3M161 LONG MBE;",
      "3M105 LONG MBOO;3M142 LONG MBO;3M132 KPI;3M092 KPA;3M074 KPU;",
      "3M044 KPEE;3M108 KPE;3M112 KPOO;3M158 KPO;3M124 GBI;3M056 GBA;",
      "3M148 GBU;3M093 GBEE;3M107 GBE;3M071 GBOO;3M070 GBO;3M171 RA;",
      "3M123 NDI;3M129 NDA;3M125 NDU;3M191 NDEE;3M119 NDE;3M067 NDOO;",
      "3M064 NDO;3M152 NJA;3M192 NJU;3M149 NJEE;3M134 NJOO;3M182 VI;",
      "3M185 VA;3M151 VU;3M173 VEE;3M085 VE;3M144 VOO;3M077 VO;3M164 NYIN;",
      "3M058 NYAN;3M170 NYUN;3M098 NYEN;3M060 NYON"]⟩,
   ⟨0x1E8C7, ["0MENDE KIKAKUI DIGIT ONE;3TWO;3THREE;3FOUR;3FIVE;3SIX;",
      "3SEVEN;3EIGHT;3NINE;2COMBINING NUMBER TEENS;4TENS;4HUNDREDS;",
      "4THOUSANDS;4TEN THOUSANDS;4HUNDRED THOUSANDS;4MILLIONS"]⟩,
   ⟨0x1E900, ["0ADLAM CAPITAL LETTER ALIF;3DAALI;3LAAM;3MIIM;3BA;",
      "3SINNYIIYHE;3PE;3BHE;3RA;3E;3FA;3I;3O;3DHA;3YHE;3WAW;3NUN;3KAF;3YA;",
      "3U;3JIIM;3CHI;3HA;3QAAF;3GA;3NYA;3TU;3NHA;3VA;3KHA;3GBE;3ZAL;3KPO;",
      "3SHA;1SMALL LETTER ALIF;3DAALI;3LAAM;3MIIM;3BA;3SINNYIIYHE;3PE;3BHE;",
      "3RA;3E;3FA;3I;3O;3DHA;3YHE;3WAW;3NUN;3KAF;3YA;3U;3JIIM;3CHI;3HA;",
      "3QAAF;3GA;3NYA;3TU;3NHA;3VA;3KHA;3GBE;3ZAL;3KPO;3SHA;",
      "1ALIF LENGTHENER;1VOWEL LENGTHENER;1GEMINATION MARK;1HAMZA;",
      "1CONSONANT MODIFIER;1GEMINATE CONSONANT MODIFIER;1NUKTA;",
      "1NASALIZATION MARK"]⟩,
   ⟨0x1E950, ["0ADLAM DIGIT ZERO;2ONE;2TWO;2THREE;2FOUR;2FIVE;2SIX;2SEVEN;",
      "2EIGHT;2NINE"]⟩,
   ⟨0x1E95E, ["0ADLAM INITIAL EXCLAMATION MARK;2QUESTION MARK"]⟩,
   ⟨0x1EC71, ["0INDIC SIYAQ NUMBER ONE;3TWO;3THREE;3FOUR;3FIVE;3SIX;3SEVEN;",
      "3EIGHT;3NINE;3TEN;3TWENTY;3THIRTY;3FORTY;3FIFTY;3SIXTY;3SEVENTY;",
      "3EIGHTY;3NINETY;3ONE HUNDRED;3TWO HUNDRED;3THREE HUNDRED;",
      "3FOUR HUNDRED;3FIVE HUNDRED;3SIX HUNDRED;3SEVEN HUNDRED;",
      "3EIGHT HUNDRED;3NINE HUNDRED;3ONE THOUSAND;3TWO THOUSAND;",
      "3THREE THOUSAND;3FOUR THOUSAND;3FIVE THOUSAND;3SIX THOUSAND;",
      "3SEVEN THOUSAND;3EIGHT THOUSAND;3NINE THOUSAND;3TEN THOUSAND;",
      "3TWENTY THOUSAND;3THIRTY THOUSAND;3FORTY THOUSAND;3FIFTY THOUSAND;",
      "3SIXTY THOUSAND;3SEVENTY THOUSAND;3EIGHTY THOUSAND;3NINETY THOUSAND;",
      "3LAKH;3LAKHAN;2LAKH MARK;2NUMBER KAROR;3KARORAN;3PREFIXED ONE;4TWO;",
      "4THREE;4FOUR;4FIVE;4SIX;4SEVEN;4EIGHT;4NINE;2PLACEHOLDER;",
      "2FRACTION ONE QUARTER;4HALF;3THREE QUARTERS;2RUPEE MARK;",
      "2NUMBER ALTERNATE ONE;4TWO;4TEN THOUSAND;2ALTERNATE LAKH MARK"]⟩,
   ⟨0x1ED01, ["0OTTOMAN SIYAQ NUMBER ONE;3TWO;3THREE;3FOUR;3FIVE;3SIX;",
      "3SEVEN;3EIGHT;3NINE;3TEN;3TWENTY;3THIRTY;3FORTY;3FIFTY;3SIXTY;",
      "3SEVENTY;3EIGHTY;3NINETY;3ONE HUNDRED;3TWO HUNDRED;3THREE HUNDRED;",
      "3FOUR HUNDRED;3FIVE HUNDRED;3SIX HUNDRED;3SEVEN HUNDRED;",
      "3EIGHT HUNDRED;3NINE HUNDRED;3ONE THOUSAND;3TWO THOUSAND;",
      "3THREE THOUSAND;3FOUR THOUSAND;3FIVE THOUSAND;3SIX THOUSAND;",
      "3SEVEN THOUSAND;3EIGHT THOUSAND;3NINE THOUSAND;3TEN THOUSAND;",
      "3TWENTY THOUSAND;3THIRTY THOUSAND;3FORTY THOUSAND;3FIFTY THOUSAND;",
      "3SIXTY THOUSAND;3SEVENTY THOUSAND;3EIGHTY THOUSAND;3NINETY THOUSAND;",
      "2MARRATAN;2ALTERNATE NUMBER TWO;4THREE;4FOUR;4FIVE;4SIX;4SEVEN;",
      "4EIGHT;4NINE;4TEN;4FOUR HUNDRED;4SIX HUNDRED;4TWO THOUSAND;",
      "4TEN THOUSAND;2FRACTION ONE HALF;4SIXTH"]⟩,
   ⟨0x1EE00, ["0ARABIC MATHEMATICAL ALEF;2BEH;2JEEM;2DAL"]⟩,
   ⟨0x1EE05, ["0ARABIC MATHEMATICAL WAW;2ZAIN;2HAH;2TAH;2YEH;2KAF;2LAM;",
      "2MEEM;2NOON;2SEEN;2AIN;2FEH;2SAD;2QAF;2REH;2SHEEN;2TEH;2THEH;2KHAH;",
      "2THAL;2DAD;2ZAH;2GHAIN;2DOTLESS BEH;3NOON;3FEH;3QAF"]⟩,
   ⟨0x1EE21, ["0ARABIC MATHEMATICAL INITIAL BEH;3JEEM"]⟩,
   ⟨0x1EE24, ["0ARABIC MATHEMATICAL INITIAL HEH"]⟩,
   ⟨0x1EE27, ["0ARABIC MATHEMATICAL INITIAL HAH"]⟩,
   ⟨0x1EE29, ["0ARABIC MATHEMATICAL INITIAL YEH;3KAF;3LAM;3MEEM;3NOON;",
      "3SEEN;3AIN;3FEH;3SAD;3QAF"]⟩,
   ⟨0x1EE34, ["0ARABIC MATHEMATICAL INITIAL SHEEN;3TEH;3THEH;3KHAH"]⟩,
   ⟨0x1EE39, ["0ARABIC MATHEMATICAL INITIAL DAD"]⟩,
   ⟨0x1EE3B, ["0ARABIC MATHEMATICAL INITIAL GHAIN"]⟩,
   ⟨0x1EE42, ["0ARABIC MATHEMATICAL TAILED JEEM"]⟩,
   ⟨0x1EE47, ["0ARABIC MATHEMATICAL TAILED HAH"]⟩,
   ⟨0x1EE49, ["0ARABIC MATHEMATICAL TAILED YEH"]⟩,
   ⟨0x1EE4B, ["0ARABIC MATHEMATICAL TAILED LAM"]⟩,
   ⟨0x1EE4D, ["0ARABIC MATHEMATICAL TAILED NOON;3SEEN;3AIN"]⟩,
   ⟨0x1EE51, ["0ARABIC MATHEMATICAL TAILED SAD;3QAF"]⟩,
   ⟨0x1EE54, ["0ARABIC MATHEMATICAL TAILED SHEEN"]⟩,
   ⟨0x1EE57, ["0ARABIC MATHEMATICAL TAILED KHAH"]⟩,
   ⟨0x1EE59, ["0ARABIC MATHEMATICAL TAILED DAD"]⟩,
   ⟨0x1EE5B, ["0ARABIC MATHEMATICAL TAILED GHAIN"]⟩,
   ⟨0x1EE5D, ["0ARABIC MATHEMATICAL TAILED DOTLESS NOON"]⟩,
   ⟨0x1EE5F, ["0ARABIC MATHEMATICAL TAILED DOTLESS QAF"]⟩,
   ⟨0x1EE61, ["0ARABIC MATHEMATICAL STRETCHED BEH;3JEEM"]⟩,
   ⟨0x1EE64, ["0ARABIC MATHEMATICAL STRETCHED HEH"]⟩,
   ⟨0x1EE67, ["0ARABIC MATHEMATICAL STRETCHED HAH;3TAH;3YEH;3KAF"]⟩,
   ⟨0x1EE6C, ["0ARABIC MATHEMATICAL STRETCHED MEEM;3NOON;3SEEN;3AIN;3FEH;",
      "3SAD;3QAF"]⟩,
   ⟨0x1EE74, ["0ARABIC MATHEMATICAL STRETCHED SHEEN;3TEH;3THEH;3KHAH"]⟩,
   ⟨0x1EE79, ["0ARABIC MATHEMATICAL STRETCHED DAD;3ZAH;3GHAIN;",
      "3DOTLESS BEH"]⟩,
   ⟨0x1EE7E, ["0ARABIC MATHEMATICAL STRETCHED DOTLESS FEH"]⟩,
   ⟨0x1EE80, ["0ARABIC MATHEMATICAL LOOPED ALEF;3BEH;3JEEM;3DAL;3HEH;3WAW;",
      "3ZAIN;3HAH;3TAH;3YEH"]⟩,
   ⟨0x1EE8B, ["0ARABIC MATHEMATICAL LOOPED LAM;3MEEM;3NOON;3SEEN;3AIN;3FEH;",
      "3SAD;3QAF;3REH;3SHEEN;3TEH;3THEH;3KHAH;3THAL;3DAD;3ZAH;3GHAIN"]⟩,
   ⟨0x1EEA1, ["0ARABIC MATHEMATICAL DOUBLE-STRUCK BEH;3JEEM;3DAL"]⟩,
   ⟨0x1EEA5, ["0ARABIC MATHEMATICAL DOUBLE-STRUCK WAW;3ZAIN;3HAH;3TAH;",
      "3YEH"]⟩,
   ⟨0x1EEAB, ["0ARABIC MATHEMATICAL DOUBLE-STRUCK LAM;3MEEM;3NOON;3SEEN;",
      "3AIN;3FEH;3SAD;3QAF;3REH;3SHEEN;3TEH;3THEH;3KHAH;3THAL;3DAD;3ZAH;",
      "3GHAIN"]⟩,
   ⟨0x1EEF0, ["0ARABIC MATHEMATICAL OPERATOR MEEM WITH HAH WITH TATWEEL;",
      "3HAH WITH DAL"]⟩,
   ⟨0x1F000, ["0MAHJONG TILE EAST WIND;2SOUTH WIND;2WEST WIND;2NORTH WIND;",
      "2RED DRAGON;2GREEN DRAGON;2WHITE DRAGON;2ONE OF CHARACTERS;",
      "2TWO OF CHARACTERS;2THREE OF CHARACTERS;2FOUR OF CHARACTERS;",
      "2FIVE OF CHARACTERS;2SIX OF CHARACTERS;2SEVEN OF CHARACTERS;",
      "2EIGHT OF CHARACTERS;2NINE OF CHARACTERS;2ONE OF BAMBOOS;",
      "2TWO OF BAMBOOS;2THREE OF BAMBOOS;2FOUR OF BAMBOOS;2FIVE OF BAMBOOS;",
      "2SIX OF BAMBOOS;2SEVEN OF BAMBOOS;2EIGHT OF BAMBOOS;",
      "2NINE OF BAMBOOS;2ONE OF CIRCLES;2TWO OF CIRCLES;2THREE OF CIRCLES;",
      "2FOUR OF CIRCLES;2FIVE OF CIRCLES;2SIX OF CIRCLES;2SEVEN OF CIRCLES;",
      "2EIGHT OF CIRCLES;2NINE OF CIRCLES;2PLUM;2ORCHID;2BAMBOO;",
      "2CHRYSANTHEMUM;2SPRING;2SUMMER;2AUTUMN;2WINTER;2JOKER;2BACK"]⟩,
   ⟨0x1F030, ["0DOMINO TILE HORIZONTAL BACK;2HORIZONTAL-00-00;",
      "2HORIZONTAL-00-01;2HORIZONTAL-00-02;2HORIZONTAL-00-03;",
      "2HORIZONTAL-00-04;2HORIZONTAL-00-05;2HORIZONTAL-00-06;",
      "2HORIZONTAL-01-00;2HORIZONTAL-01-01;2HORIZONTAL-01-02;",
      "2HORIZONTAL-01-03;2HORIZONTAL-01-04;2HORIZONTAL-01-05;",
      "2HORIZONTAL-01-06;2HORIZONTAL-02-00;2HORIZONTAL-02-01;",
      "2HORIZONTAL-02-02;2HORIZONTAL-02-03;2HORIZONTAL-02-04;",
      "2HORIZONTAL-02-05;2HORIZONTAL-02-06;2HORIZONTAL-03-00;",
      "2HORIZONTAL-03-01;2HORIZONTAL-03-02;2HORIZONTAL-03-03;",
      "2HORIZONTAL-03-04;2HORIZONTAL-03-05;2HORIZONTAL-03-06;",
      "2HORIZONTAL-04-00;2HORIZONTAL-04-01;2HORIZONTAL-04-02;",
      "2HORIZONTAL-04-03;2HORIZONTAL-04-04;2HORIZONTAL-04-05;",
      "2HORIZONTAL-04-06;2HORIZONTAL-05-00;2HORIZONTAL-05-01;",
      "2HORIZONTAL-05-02;2HORIZONTAL-05-03;2HORIZONTAL-05-04;",
      "2HORIZONTAL-05-05;2HORIZONTAL-05-06;2HORIZONTAL-06-00;",
      "2HORIZONTAL-06-01;2HORIZONTAL-06-02;2HORIZONTAL-06-03;",
      "2HORIZONTAL-06-04;2HORIZONTAL-06-05;2HORIZONTAL-06-06;",
      "2VERTICAL BACK;2VERTICAL-00-00;2VERTICAL-00-01;2VERTICAL-00-02;",
      "2VERTICAL-00-03;2VERTICAL-00-04;2VERTICAL-00-05;2VERTICAL-00-06;",
      "2VERTICAL-01-00;2VERTICAL-01-01;2VERTICAL-01-02;2VERTICAL-01-03;",
      "2VERTICAL-01-04;2VERTICAL-01-05;2VERTICAL-01-06;2VERTICAL-02-00;",
      "2VERTICAL-02-01;2VERTICAL-02-02;2VERTICAL-02-03;2VERTICAL-02-04;",
      "2VERTICAL-02-05;2VERTICAL-02-06;2VERTICAL-03-00;2VERTICAL-03-01;",
      "2VERTICAL-03-02;2VERTICAL-03-03;2VERTICAL-03-04;2VERTICAL-03-05;",
      "2VERTICAL-03-06;2VERTICAL-04-00;2VERTICAL-04-01;2VERTICAL-04-02;",
      "2VERTICAL-04-03;2VERTICAL-04-04;2VERTICAL-04-05;2VERTICAL-04-06;",
      "2VERTICAL-05-00;2VERTICAL-05-01;2VERTICAL-05-02;2VERTICAL-05-03;",
      "2VERTICAL-05-04;2VERTICAL-05-05;2VERTICAL-05-06;2VERTICAL-06-00;",
      "2VERTICAL-06-01;2VERTICAL-06-02;2VERTICAL-06-03;2VERTICAL-06-04;",
      "2VERTICAL-06-05;2VERTICAL-06-06"]⟩,
   ⟨0x1F0A0, ["0PLAYING CARD BACK;2ACE OF SPADES;2TWO OF SPADES;",
      "2THREE OF SPADES;2FOUR OF SPADES;2FIVE OF SPADES;2SIX OF SPADES;",
      "2SEVEN OF SPADES;2EIGHT OF SPADES;2NINE OF SPADES;2TEN OF SPADES;",
      "2JACK OF SPADES;2KNIGHT OF SPADES;2QUEEN OF SPADES;2KING OF SPADES"]⟩,
   ⟨0x1F0B1, ["0PLAYING CARD ACE OF HEARTS;2TWO OF HEARTS;2THREE OF HEARTS;",
      "2FOUR OF HEARTS;2FIVE OF HEARTS;2SIX OF HEARTS;2SEVEN OF HEARTS;",
      "2EIGHT OF HEARTS;2NINE OF HEARTS;2TEN OF HEARTS;2JACK OF HEARTS;",
      "2KNIGHT OF HEARTS;2QUEEN OF HEARTS;2KING OF HEARTS;2RED JOKER"]⟩,
   ⟨0x1F0C1, ["0PLAYING CARD ACE OF DIAMONDS;2TWO OF DIAMONDS;",
      "2THREE OF DIAMONDS;2FOUR OF DIAMONDS;2FIVE OF DIAMONDS;",
      "2SIX OF DIAMONDS;2SEVEN OF DIAMONDS;2EIGHT OF DIAMONDS;",
      "2NINE OF DIAMONDS;2TEN OF DIAMONDS;2JACK OF DIAMONDS;",
      "2KNIGHT OF DIAMONDS;2QUEEN OF DIAMONDS;2KING OF DIAMONDS;",
      "2BLACK JOKER"]⟩,
   ⟨0x1F0D1, ["0PLAYING CARD ACE OF CLUBS;2TWO OF CLUBS;2THREE OF CLUBS;",
      "2FOUR OF CLUBS;2FIVE OF CLUBS;2SIX OF CLUBS;2SEVEN OF CLUBS;",
      "2EIGHT OF CLUBS;2NINE OF CLUBS;2TEN OF CLUBS;2JACK OF CLUBS;",
      "2KNIGHT OF CLUBS;2QUEEN OF CLUBS;2KING OF CLUBS;2WHITE JOKER;2FOOL;",
      "2TRUMP-1;2TRUMP-2;2TRUMP-3;2TRUMP-4;2TRUMP-5;2TRUMP-6;2TRUMP-7;",
      "2TRUMP-8;2TRUMP-9;2TRUMP-10;2TRUMP-11;2TRUMP-12;2TRUMP-13;2TRUMP-14;",
      "2TRUMP-15;2TRUMP-16;2TRUMP-17;2TRUMP-18;2TRUMP-19;2TRUMP-20;",
      "2TRUMP-21"]⟩,
   ⟨0x1F100, ["0DIGIT ZERO FULL STOP;2COMMA;1ONE COMMA;1TWO COMMA;",
      "1THREE COMMA;1FOUR COMMA;1FIVE COMMA;1SIX COMMA;1SEVEN COMMA;",
      "1EIGHT COMMA;1NINE COMMA;0DINGBAT CIRCLED SANS-SERIF DIGIT ZERO;",
      "1NEGATIVE CIRCLED SANS-SERIF DIGIT ZERO;0CIRCLED ZERO WITH SLASH;",
      "1ANTICLOCKWISE ARROW;1DOLLAR SIGN WITH OVERLAID BACKSLASH;",
      "0PARENTHESIZED LATIN CAPITAL LETTER A;4B;4C;4D;4E;4F;4G;4H;4I;4J;4K;",
      "4L;4M;4N;4O;4P;4Q;4R;4S;4T;4U;4V;4W;4X;4Y;4Z;",
      "0TORTOISE SHELL BRACKETED LATIN CAPITAL LETTER S;",
      "0CIRCLED ITALIC LATIN CAPITAL LETTER C;5R;1CD;1WZ;0COPYLEFT SYMBOL;",
      "0SQUARED LATIN CAPITAL LETTER A;4B;4C;4D;4E;4F;4G;4H;4I;4J;4K;4L;4M;",
      "4N;4O;4P;4Q;4R;4S;4T;4U;4V;4W;4X;4Y;4Z;1HV;1MV;1SD;1SS;1PPV;1WC;",
      "0NEGATIVE CIRCLED LATIN CAPITAL LETTER A;5B;5C;5D;5E;5F;5G;5H;5I;5J;",
      "5K;5L;5M;5N;5O;5P;5Q;5R;5S;5T;5U;5V;5W;5X;5Y;5Z;0RAISED MC SIGN;",
      "1MD SIGN;1MR SIGN;0CIRCLED CC;1C WITH OVERLAID BACKSLASH;",
      "1HUMAN FIGURE;0NEGATIVE SQUARED LATIN CAPITAL LETTER A;5B;5C;5D;5E;",
      "5F;5G;5H;5I;5J;5K;5L;5M;5N;5O;5P;5Q;5R;5S;5T;5U;5V;5W;5X;5Y;5Z;",
      "0CROSSED NEGATIVE SQUARED LATIN CAPITAL LETTER P;",
      "0NEGATIVE SQUARED IC;2PA;2SA;2AB;2WC;0SQUARE DJ;0SQUARED CL;1COOL;",
      "1FREE;1ID;1NEW;1NG;1OK;1SOS;1UP WITH EXCLAMATION MARK;1VS;1THREE D;",
      "1SECOND SCREEN;1TWO K;1FOUR K;1EIGHT K;1FIVE POINT ONE;",
      "1SEVEN POINT ONE;1TWENTY-TWO POINT TWO;1SIXTY P;",
      "1ONE HUNDRED TWENTY P;1LATIN SMALL LETTER D;1HC;1HDR;1HI-RES;",
      "1LOSSLESS;1SHV;1UHD;1VOD;0MASK WORK SYMBOL"]⟩,
   ⟨0x1F1E6, ["0REGIONAL INDICATOR SYMBOL LETTER A;4B;4C;4D;4E;4F;4G;4H;4I;",
      "4J;4K;4L;4M;4N;4O;4P;4Q;4R;4S;4T;4U;4V;4W;4X;4Y;4Z;",
      "0SQUARE HIRAGANA HOKA;0SQUARED KATAKANA KOKO;2SA"]⟩,
   ⟨0x1F210, ["0SQUARED CJK UNIFIED IDEOGRAPH-624B;3IDEOGRAPH-5B57;",
      "3IDEOGRAPH-53CC;1KATAKANA DE;1CJK UNIFIED IDEOGRAPH-4E8C;",
      "3IDEOGRAPH-591A;3IDEOGRAPH-89E3;3IDEOGRAPH-5929;3IDEOGRAPH-4EA4;",
      "3IDEOGRAPH-6620;3IDEOGRAPH-7121;3IDEOGRAPH-6599;3IDEOGRAPH-524D;",
      "3IDEOGRAPH-5F8C;3IDEOGRAPH-518D;3IDEOGRAPH-65B0;3IDEOGRAPH-521D;",
      "3IDEOGRAPH-7D42;3IDEOGRAPH-751F;3IDEOGRAPH-8CA9;3IDEOGRAPH-58F0;",
      "3IDEOGRAPH-5439;3IDEOGRAPH-6F14;3IDEOGRAPH-6295;3IDEOGRAPH-6355;",
      "3IDEOGRAPH-4E00;3IDEOGRAPH-4E09;3IDEOGRAPH-904A;3IDEOGRAPH-5DE6;",
      "3IDEOGRAPH-4E2D;3IDEOGRAPH-53F3;3IDEOGRAPH-6307;3IDEOGRAPH-8D70;",
      "3IDEOGRAPH-6253;3IDEOGRAPH-7981;3IDEOGRAPH-7A7A;3IDEOGRAPH-5408;",
      "3IDEOGRAPH-6E80;3IDEOGRAPH-6709;3IDEOGRAPH-6708;3IDEOGRAPH-7533;",
      "3IDEOGRAPH-5272;3IDEOGRAPH-55B6;3IDEOGRAPH-914D"]⟩,
   ⟨0x1F240, ["0TORTOISE SHELL BRACKETED CJK UNIFIED IDEOGRAPH-672C;",
      "5IDEOGRAPH-4E09;5IDEOGRAPH-4E8C;5IDEOGRAPH-5B89;5IDEOGRAPH-70B9;",
      "5IDEOGRAPH-6253;5IDEOGRAPH-76D7;5IDEOGRAPH-52DD;5IDEOGRAPH-6557"]⟩,
   ⟨0x1F250, ["0CIRCLED IDEOGRAPH ADVANTAGE;2ACCEPT"]⟩,
   ⟨0x1F260, ["0ROUNDED SYMBOL FOR FU;3LU;3SHOU;3XI;3SHUANGXI;3CAI"]⟩,
   ⟨0x1F300, ["0CYCLONE;0FOGGY;0CLOSED UMBRELLA;0NIGHT WITH STARS;",
      "0SUNRISE OVER MOUNTAINS;0SUNRISE;0CITYSCAPE AT DUSK;",
      "0SUNSET OVER BUILDINGS;0RAINBOW;0BRIDGE AT NIGHT;0WATER WAVE;",
      "0VOLCANO;0MILKY WAY;0EARTH GLOBE EUROPE-AFRICA;2AMERICAS;",
      "2ASIA-AUSTRALIA;0GLOBE WITH MERIDIANS;0NEW MOON SYMBOL;",
      "0WAXING CRESCENT MOON SYMBOL;0FIRST QUARTER MOON SYMBOL;",
      "0WAXING GIBBOUS MOON SYMBOL;0FULL MOON SYMBOL;",
      "0WANING GIBBOUS MOON SYMBOL;0LAST QUARTER MOON SYMBOL;",
      "0WANING CRESCENT MOON SYMBOL;0CRESCENT MOON;0NEW MOON WITH FACE;",
      "0FIRST QUARTER MOON WITH FACE;0LAST QUARTER MOON WITH FACE;",
      "0FULL MOON WITH FACE;0SUN WITH FACE;0GLOWING STAR;0SHOOTING STAR;",
      "0THERMOMETER;0BLACK DROPLET;0WHITE SUN;2WITH SMALL CLOUD;",
      "2BEHIND CLOUD;4WITH RAIN;0CLOUD WITH RAIN;2SNOW;2LIGHTNING;2TORNADO;",
      "0FOG;0WIND BLOWING FACE;0HOT DOG;0TACO;0BURRITO;0CHESTNUT;0SEEDLING;",
      "0EVERGREEN TREE;0DECIDUOUS TREE;0PALM TREE;0CACTUS;0HOT PEPPER;",
      "0TULIP;0CHERRY BLOSSOM;0ROSE;0HIBISCUS;0SUNFLOWER;0BLOSSOM;",
      "0EAR OF MAIZE;2RICE;0HERB;0FOUR LEAF CLOVER;0MAPLE LEAF;",
      "0FALLEN LEAF;0LEAF FLUTTERING IN WIND;0MUSHROOM;0TOMATO;0AUBERGINE;",
      "0GRAPES;0MELON;0WATERMELON;0TANGERINE;0LEMON;0BANANA;0PINEAPPLE;",
      "0RED APPLE;0GREEN APPLE;0PEAR;0PEACH;0CHERRIES;0STRAWBERRY;",
      "0HAMBURGER;0SLICE OF PIZZA;0MEAT ON BONE;0POULTRY LEG;0RICE CRACKER;",
      "1BALL;0COOKED RICE;0CURRY AND RICE;0STEAMING BOWL;0SPAGHETTI;0BREAD;",
      "0FRENCH FRIES;0ROASTED SWEET POTATO;0DANGO;0ODEN;0SUSHI;",
      "0FRIED SHRIMP;0FISH CAKE WITH SWIRL DESIGN;0SOFT ICE CREAM;",
      "0SHAVED ICE;0ICE CREAM;0DOUGHNUT;0COOKIE;0CHOCOLATE BAR;0CANDY;",
      "0LOLLIPOP;0CUSTARD;0HONEY POT;0SHORTCAKE;0BENTO BOX;0POT OF FOOD;",
      "0COOKING;0FORK AND KNIFE;0TEACUP WITHOUT HANDLE;",
      "0SAKE BOTTLE AND CUP;0WINE GLASS;0COCKTAIL GLASS;0TROPICAL DRINK;",
      "0BEER MUG;0CLINKING BEER MUGS;0BABY BOTTLE;",
      "0FORK AND KNIFE WITH PLATE;0BOTTLE WITH POPPING CORK;0POPCORN;",
      "0RIBBON;0WRAPPED PRESENT;0BIRTHDAY CAKE;0JACK-O-LANTERN;",
      "0CHRISTMAS TREE;0FATHER CHRISTMAS;0FIREWORKS;0FIREWORK SPARKLER;",
      "0BALLOON;0PARTY POPPER;0CONFETTI BALL;0TANABATA TREE;0CROSSED FLAGS;",
      "0PINE DECORATION;0JAPANESE DOLLS;0CARP STREAMER;0WIND CHIME;",
      "0MOON VIEWING CEREMONY;0SCHOOL SATCHEL;0GRADUATION CAP;",
      "0HEART WITH TIP ON THE LEFT;0BOUQUET OF FLOWERS;0MILITARY MEDAL;",
      "0REMINDER RIBBON;0MUSICAL KEYBOARD WITH JACKS;0STUDIO MICROPHONE;",
      "0LEVEL SLIDER;0CONTROL KNOBS;0BEAMED ASCENDING MUSICAL NOTES;",
      "1DESCENDING MUSICAL NOTES;0FILM FRAMES;0ADMISSION TICKETS;",
      "0CAROUSEL HORSE;0FERRIS WHEEL;0ROLLER COASTER;",
      "0FISHING POLE AND FISH;0MICROPHONE;0MOVIE CAMERA;0CINEMA;0HEADPHONE;",
      "0ARTIST PALETTE;0TOP HAT;0CIRCUS TENT;0TICKET;0CLAPPER BOARD;",
      "0PERFORMING ARTS;0VIDEO GAME;0DIRECT HIT;0SLOT MACHINE;0BILLIARDS;",
      "0GAME DIE;0BOWLING;0FLOWER PLAYING CARDS;0MUSICAL NOTE;",
      "0MULTIPLE MUSICAL NOTES;0SAXOPHONE;0GUITAR;0MUSICAL KEYBOARD;",
      "0TRUMPET;0VIOLIN;0MUSICAL SCORE;0RUNNING SHIRT WITH SASH;",
      "0TENNIS RACQUET AND BALL;0SKI AND SKI BOOT;0BASKETBALL AND HOOP;",
      "0CHEQUERED FLAG;0SNOWBOARDER;0RUNNER;0SURFER;0SPORTS MEDAL;0TROPHY;",
      "0HORSE RACING;0AMERICAN FOOTBALL;0RUGBY FOOTBALL;0SWIMMER;",
      "0WEIGHT LIFTER;0GOLFER;0RACING MOTORCYCLE;1CAR;",
      "0CRICKET BAT AND BALL;0VOLLEYBALL;0FIELD HOCKEY STICK AND BALL;",
      "0ICE HOCKEY STICK AND PUCK;0TABLE TENNIS PADDLE AND BALL;",
      "0SNOW CAPPED MOUNTAIN;0CAMPING;0BEACH WITH UMBRELLA;",
      "0BUILDING CONSTRUCTION;0HOUSE BUILDINGS;0CITYSCAPE;",
      "0DERELICT HOUSE BUILDING;0CLASSICAL BUILDING;0DESERT;1ISLAND;",
      "0NATIONAL PARK;0STADIUM;0HOUSE BUILDING;1WITH GARDEN;",
      "0OFFICE BUILDING;0JAPANESE POST OFFICE;0EUROPEAN POST OFFICE;",
      "0HOSPITAL;0BANK;0AUTOMATED TELLER MACHINE;0HOTEL;0LOVE HOTEL;",
      "0CONVENIENCE STORE;0SCHOOL;0DEPARTMENT STORE;0FACTORY;",
      "0IZAKAYA LANTERN;0JAPANESE CASTLE;0EUROPEAN CASTLE;0WHITE PENNANT;",
      "0BLACK PENNANT;0WAVING WHITE FLAG;1BLACK FLAG;0ROSETTE;",
      "0BLACK ROSETTE;0LABEL;0BADMINTON RACQUET AND SHUTTLECOCK;",
      "0BOW AND ARROW;0AMPHORA;0EMOJI MODIFIER FITZPATRICK TYPE-1-2;",
      "3TYPE-3;3TYPE-4;3TYPE-5;3TYPE-6;0RAT;0MOUSE;0OX;0WATER BUFFALO;0COW;",
      "0TIGER;0LEOPARD;0RABBIT;0CAT;0DRAGON;0CROCODILE;0WHALE;0SNAIL;",
      "0SNAKE;0HORSE;0RAM;0GOAT;0SHEEP;0MONKEY;0ROOSTER;0CHICKEN;0DOG;0PIG;",
      "0BOAR;0ELEPHANT;0OCTOPUS;0SPIRAL SHELL;0BUG;0ANT;0HONEYBEE;",
      "0LADY BEETLE;0FISH;0TROPICAL FISH;0BLOWFISH;0TURTLE;0HATCHING CHICK;",
      "0BABY CHICK;0FRONT-FACING BABY CHICK;0BIRD;0PENGUIN;0KOALA;0POODLE;",
      "0DROMEDARY CAMEL;0BACTRIAN CAMEL;0DOLPHIN;0MOUSE FACE;0COW FACE;",
      "0TIGER FACE;0RABBIT FACE;0CAT FACE;0DRAGON FACE;0SPOUTING WHALE;",
      "0HORSE FACE;0MONKEY FACE;0DOG FACE;0PIG FACE;0FROG FACE;",
      "0HAMSTER FACE;0WOLF FACE;0BEAR FACE;0PANDA FACE;0PIG NOSE;",
      "0PAW PRINTS;0CHIPMUNK;0EYES;0EYE;0EAR;0NOSE;0MOUTH;0TONGUE;",
      "0WHITE UP POINTING BACKHAND INDEX;1DOWN POINTING BACKHAND INDEX;",
      "1LEFT POINTING BACKHAND INDEX;1RIGHT POINTING BACKHAND INDEX;",
      "0FISTED HAND SIGN;0WAVING HAND SIGN;0OK HAND SIGN;0THUMBS UP SIGN;",
      "1DOWN SIGN;0CLAPPING HANDS SIGN;0OPEN HANDS SIGN;0CROWN;0WOMANS HAT;",
      "0EYEGLASSES;0NECKTIE;0T-SHIRT;0JEANS;0DRESS;0KIMONO;0BIKINI;",
      "0WOMANS CLOTHES;0PURSE;0HANDBAG;0POUCH;0MANS SHOE;0ATHLETIC SHOE;",
      "0HIGH-HEELED SHOE;0WOMANS SANDAL;1BOOTS;0FOOTPRINTS;",
      "0BUST IN SILHOUETTE;0BUSTS IN SILHOUETTE;0BOY;0GIRL;0MAN;0WOMAN;",
      "0FAMILY;0MAN AND WOMAN HOLDING HANDS;0TWO MEN HOLDING HANDS;",
      "1WOMEN HOLDING HANDS;0POLICE OFFICER;0WOMAN WITH BUNNY EARS;",
      "0BRIDE WITH VEIL;0PERSON WITH BLOND HAIR;0MAN WITH GUA PI MAO;",
      "2TURBAN;0OLDER MAN;1WOMAN;0BABY;0CONSTRUCTION WORKER;0PRINCESS;",
      "0JAPANESE OGRE;1GOBLIN;0GHOST;0BABY ANGEL;0EXTRATERRESTRIAL ALIEN;",
      "0ALIEN MONSTER;0IMP;0SKULL;0INFORMATION DESK PERSON;0GUARDSMAN;",
      "0DANCER;0LIPSTICK;0NAIL POLISH;0FACE MASSAGE;0HAIRCUT;0BARBER POLE;",
      "0SYRINGE;0PILL;0KISS MARK;0LOVE LETTER;0RING;0GEM STONE;0KISS;",
      "0BOUQUET;0COUPLE WITH HEART;0WEDDING;0BEATING HEART;0BROKEN HEART;",
      "0TWO HEARTS;0SPARKLING HEART;0GROWING HEART;0HEART WITH ARROW;",
      "0BLUE HEART;0GREEN HEART;0YELLOW HEART;0PURPLE HEART;",
      "0HEART WITH RIBBON;0REVOLVING HEARTS;0HEART DECORATION;",
      "0DIAMOND SHAPE WITH A DOT INSIDE;0ELECTRIC LIGHT BULB;0ANGER SYMBOL;",
      "0BOMB;0SLEEPING SYMBOL;0COLLISION SYMBOL;0SPLASHING SWEAT SYMBOL;",
      "0DROPLET;0DASH SYMBOL;0PILE OF POO;0FLEXED BICEPS;0DIZZY SYMBOL;",
      "0SPEECH BALLOON;0THOUGHT BALLOON;0WHITE FLOWER;",
      "0HUNDRED POINTS SYMBOL;0MONEY BAG;0CURRENCY EXCHANGE;",
      "0HEAVY DOLLAR SIGN;0CREDIT CARD;0BANKNOTE WITH YEN SIGN;",
      "2DOLLAR SIGN;2EURO SIGN;2POUND SIGN;0MONEY WITH WINGS;",
      "0CHART WITH UPWARDS TREND AND YEN SIGN;0SEAT;0PERSONAL COMPUTER;",
      "0BRIEFCASE;0MINIDISC;0FLOPPY DISK;0OPTICAL DISC;0DVD;0FILE FOLDER;",
      "0OPEN FILE FOLDER;0PAGE WITH CURL;1FACING UP;0CALENDAR;",
      "0TEAR-OFF CALENDAR;0CARD INDEX;0CHART WITH UPWARDS TREND;",
      "2DOWNWARDS TREND;0BAR CHART;0CLIPBOARD;0PUSHPIN;0ROUND PUSHPIN;",
      "0PAPERCLIP;0STRAIGHT RULER;0TRIANGULAR RULER;0BOOKMARK TABS;0LEDGER;",
      "0NOTEBOOK;1WITH DECORATIVE COVER;0CLOSED BOOK;0OPEN BOOK;",
      "0GREEN BOOK;0BLUE BOOK;0ORANGE BOOK;0BOOKS;0NAME BADGE;0SCROLL;",
      "0MEMO;0TELEPHONE RECEIVER;0PAGER;0FAX MACHINE;0SATELLITE ANTENNA;",
      "0PUBLIC ADDRESS LOUDSPEAKER;0CHEERING MEGAPHONE;0OUTBOX TRAY;",
      "0INBOX TRAY;0PACKAGE;0E-MAIL SYMBOL;0INCOMING ENVELOPE;",
      "0ENVELOPE WITH DOWNWARDS ARROW ABOVE;",
      "0CLOSED MAILBOX WITH LOWERED FLAG;3RAISED FLAG;",
      "0OPEN MAILBOX WITH RAISED FLAG;3LOWERED FLAG;0POSTBOX;0POSTAL HORN;",
      "0NEWSPAPER;0MOBILE PHONE;2WITH RIGHTWARDS ARROW AT LEFT;",
      "0VIBRATION MODE;0MOBILE PHONE OFF;0NO MOBILE PHONES;",
      "0ANTENNA WITH BARS;0CAMERA;1WITH FLASH;0VIDEO CAMERA;0TELEVISION;",
      "0RADIO;0VIDEOCASSETTE;0FILM PROJECTOR;0PORTABLE STEREO;",
      "0PRAYER BEADS;0TWISTED RIGHTWARDS ARROWS;",
      "0CLOCKWISE RIGHTWARDS AND LEFTWARDS OPEN CIRCLE ARROWS;",
      "7WITH CIRCLED ONE OVERLAY;1DOWNWARDS AND UPWARDS OPEN CIRCLE ARROWS;",
      "0ANTICLOCKWISE DOWNWARDS AND UPWARDS OPEN CIRCLE ARROWS;",
      "0LOW BRIGHTNESS SYMBOL;0HIGH BRIGHTNESS SYMBOL;",
      "0SPEAKER WITH CANCELLATION STROKE;0SPEAKER;1WITH ONE SOUND WAVE;",
      "2THREE SOUND WAVES;0BATTERY;0ELECTRIC PLUG;",
      "0LEFT-POINTING MAGNIFYING GLASS;0RIGHT-POINTING MAGNIFYING GLASS;",
      "0LOCK WITH INK PEN;0CLOSED LOCK WITH KEY;0KEY;0LOCK;0OPEN LOCK;",
      "0BELL;1WITH CANCELLATION STROKE;0BOOKMARK;0LINK SYMBOL;",
      "0RADIO BUTTON;0BACK WITH LEFTWARDS ARROW ABOVE;",
      "0END WITH LEFTWARDS ARROW ABOVE;",
      "0ON WITH EXCLAMATION MARK WITH LEFT RIGHT ARROW ABOVE;",
      "0SOON WITH RIGHTWARDS ARROW ABOVE;0TOP WITH UPWARDS ARROW ABOVE;",
      "0NO ONE UNDER EIGHTEEN SYMBOL;0KEYCAP TEN;",
      "0INPUT SYMBOL FOR LATIN CAPITAL LETTERS;4SMALL LETTERS;3NUMBERS;",
      "3SYMBOLS;3LATIN LETTERS;0FIRE;0ELECTRIC TORCH;0WRENCH;0HAMMER;",
      "0NUT AND BOLT;0HOCHO;0PISTOL;0MICROSCOPE;0TELESCOPE;0CRYSTAL BALL;",
      "0SIX POINTED STAR WITH MIDDLE DOT;0JAPANESE SYMBOL FOR BEGINNER;",
      "0TRIDENT EMBLEM;0BLACK SQUARE BUTTON;0WHITE SQUARE BUTTON;",
      "0LARGE RED CIRCLE;1BLUE CIRCLE;1ORANGE DIAMOND;1BLUE DIAMOND;",
      "0SMALL ORANGE DIAMOND;1BLUE DIAMOND;0UP-POINTING RED TRIANGLE;",
      "0DOWN-POINTING RED TRIANGLE;0UP-POINTING SMALL RED TRIANGLE;",
      "0DOWN-POINTING SMALL RED TRIANGLE;",
      "0LOWER RIGHT SHADOWED WHITE CIRCLE;",
      "0UPPER RIGHT SHADOWED WHITE CIRCLE;0CIRCLED CROSS POMMEE;",
      "0CROSS POMMEE WITH HALF-CIRCLE BELOW;1POMMEE;",
      "0NOTCHED LEFT SEMICIRCLE WITH THREE DOTS;",
      "1RIGHT SEMICIRCLE WITH THREE DOTS;0SYMBOL FOR MARKS CHAPTER;",
      "0WHITE LATIN CROSS;0HEAVY LATIN CROSS;0CELTIC CROSS;0OM SYMBOL;",
      "0DOVE OF PEACE;0KAABA;0MOSQUE;0SYNAGOGUE;",
      "0MENORAH WITH NINE BRANCHES;0BOWL OF HYGIEIA;0CLOCK FACE ONE OCLOCK;",
      "2TWO OCLOCK;2THREE OCLOCK;2FOUR OCLOCK;2FIVE OCLOCK;2SIX OCLOCK;",
      "2SEVEN OCLOCK;2EIGHT OCLOCK;2NINE OCLOCK;2TEN OCLOCK;2ELEVEN OCLOCK;",
      "2TWELVE OCLOCK;2ONE-THIRTY;2TWO-THIRTY;2THREE-THIRTY;2FOUR-THIRTY;",
      "2FIVE-THIRTY;2SIX-THIRTY;2SEVEN-THIRTY;2EIGHT-THIRTY;2NINE-THIRTY;",
      "2TEN-THIRTY;2ELEVEN-THIRTY;2TWELVE-THIRTY;0RIGHT SPEAKER;",
      "2WITH ONE SOUND WAVE;3THREE SOUND WAVES;0BULLHORN;1WITH SOUND WAVES;",
      "0RINGING BELL;0BOOK;0CANDLE;0MANTELPIECE CLOCK;",
      "0BLACK SKULL AND CROSSBONES;0NO PIRACY;0HOLE;",
      "0MAN IN BUSINESS SUIT LEVITATING;0SLEUTH OR SPY;0DARK SUNGLASSES;",
      "0SPIDER;1WEB;0JOYSTICK;0MAN DANCING;0LEFT HAND TELEPHONE RECEIVER;",
      "0TELEPHONE RECEIVER WITH PAGE;0RIGHT HAND TELEPHONE RECEIVER;",
      "0WHITE TOUCHTONE TELEPHONE;0BLACK TOUCHTONE TELEPHONE;",
      "0TELEPHONE ON TOP OF MODEM;0CLAMSHELL MOBILE PHONE;",
      "0BACK OF ENVELOPE;0STAMPED ENVELOPE;0ENVELOPE WITH LIGHTNING;",
      "0FLYING ENVELOPE;0PEN OVER STAMPED ENVELOPE;0LINKED PAPERCLIPS;",
      "0BLACK PUSHPIN;0LOWER LEFT PENCIL;2BALLPOINT PEN;2FOUNTAIN PEN;",
      "2PAINTBRUSH;2CRAYON;0LEFT WRITING HAND;0TURNED OK HAND SIGN;",
      "0RAISED HAND WITH FINGERS SPLAYED;",
      "0REVERSED RAISED HAND WITH FINGERS SPLAYED;1THUMBS UP SIGN;",
      "2DOWN SIGN;1VICTORY HAND;1HAND WITH MIDDLE FINGER EXTENDED;",
      "0RAISED HAND WITH PART BETWEEN MIDDLE AND RING FINGERS;",
      "0WHITE DOWN POINTING LEFT HAND INDEX;",
      "0SIDEWAYS WHITE LEFT POINTING INDEX;2RIGHT POINTING INDEX;",
      "1BLACK LEFT POINTING INDEX;2RIGHT POINTING INDEX;",
      "0BLACK LEFT POINTING BACKHAND INDEX;1RIGHT POINTING BACKHAND INDEX;",
      "0SIDEWAYS WHITE UP POINTING INDEX;2DOWN POINTING INDEX;",
      "1BLACK UP POINTING INDEX;2DOWN POINTING INDEX;",
      "0BLACK UP POINTING BACKHAND INDEX;1DOWN POINTING BACKHAND INDEX;",
      "1HEART;0DESKTOP COMPUTER;0KEYBOARD AND MOUSE;",
      "0THREE NETWORKED COMPUTERS;0PRINTER;0POCKET CALCULATOR;",
      "0BLACK HARD SHELL FLOPPY DISK;0WHITE HARD SHELL FLOPPY DISK;",
      "0SOFT SHELL FLOPPY DISK;0TAPE CARTRIDGE;0WIRED KEYBOARD;",
      "0ONE BUTTON MOUSE;0TWO BUTTON MOUSE;0THREE BUTTON MOUSE;0TRACKBALL;",
      "0OLD PERSONAL COMPUTER;0HARD DISK;0SCREEN;0PRINTER ICON;0FAX ICON;",
      "0OPTICAL DISC ICON;0DOCUMENT WITH TEXT;3AND PICTURE;2PICTURE;",
      "0FRAME WITH PICTURE;2TILES;2AN X;0BLACK FOLDER;0FOLDER;0OPEN FOLDER;",
      "0CARD INDEX DIVIDERS;1FILE BOX;0FILE CABINET;0EMPTY NOTE;2PAGE;2PAD;",
      "0NOTE;1PAGE;1PAD;0EMPTY DOCUMENT;1PAGE;1PAGES;0DOCUMENT;0PAGE;",
      "0PAGES;0WASTEBASKET;0SPIRAL NOTE PAD;1CALENDAR PAD;0DESKTOP WINDOW;",
      "0MINIMIZE;0MAXIMIZE;0OVERLAP;",
      "0CLOCKWISE RIGHT AND LEFT SEMICIRCLE ARROWS;0CANCELLATION X;",
      "0INCREASE FONT SIZE SYMBOL;0DECREASE FONT SIZE SYMBOL;0COMPRESSION;",
      "0OLD KEY;0ROLLED-UP NEWSPAPER;0PAGE WITH CIRCLED TEXT;0STOCK CHART;",
      "0DAGGER KNIFE;0LIPS;0SPEAKING HEAD IN SILHOUETTE;0THREE RAYS ABOVE;",
      "2BELOW;2LEFT;2RIGHT;0LEFT SPEECH BUBBLE;0RIGHT SPEECH BUBBLE;",
      "0TWO SPEECH BUBBLES;0THREE SPEECH BUBBLES;0LEFT THOUGHT BUBBLE;",
      "0RIGHT THOUGHT BUBBLE;0LEFT ANGER BUBBLE;0RIGHT ANGER BUBBLE;",
      "0MOOD BUBBLE;0LIGHTNING MOOD BUBBLE;1MOOD;0BALLOT BOX WITH BALLOT;",
      "1SCRIPT X;1BOX WITH SCRIPT X;1BOLD SCRIPT X;1BOX WITH BOLD SCRIPT X;",
      "0LIGHT CHECK MARK;0BALLOT BOX WITH BOLD CHECK;0WORLD MAP;",
      "0MOUNT FUJI;0TOKYO TOWER;0STATUE OF LIBERTY;0SILHOUETTE OF JAPAN;",
      "0MOYAI;0GRINNING FACE;2WITH SMILING EYES;0FACE WITH TEARS OF JOY;",
      "0SMILING FACE WITH OPEN MOUTH;5AND SMILING EYES;6COLD SWEAT;",
      "6TIGHTLY-CLOSED EYES;3HALO;3HORNS;0WINKING FACE;",
      "0SMILING FACE WITH SMILING EYES;0FACE SAVOURING DELICIOUS FOOD;",
      "0RELIEVED FACE;0SMILING FACE WITH HEART-SHAPED EYES;3SUNGLASSES;",
      "0SMIRKING FACE;0NEUTRAL FACE;0EXPRESSIONLESS FACE;0UNAMUSED FACE;",
      "0FACE WITH COLD SWEAT;0PENSIVE FACE;0CONFUSED FACE;0CONFOUNDED FACE;",
      "0KISSING FACE;0FACE THROWING A KISS;0KISSING FACE WITH SMILING EYES;",
      "3CLOSED EYES;0FACE WITH STUCK-OUT TONGUE;4AND WINKING EYE;",
      "5TIGHTLY-CLOSED EYES;0DISAPPOINTED FACE;0WORRIED FACE;0ANGRY FACE;",
      "0POUTING FACE;0CRYING FACE;0PERSEVERING FACE;",
      "0FACE WITH LOOK OF TRIUMPH;0DISAPPOINTED BUT RELIEVED FACE;",
      "0FROWNING FACE WITH OPEN MOUTH;0ANGUISHED FACE;0FEARFUL FACE;",
      "0WEARY FACE;0SLEEPY FACE;0TIRED FACE;0GRIMACING FACE;",
      "0LOUDLY CRYING FACE;0FACE WITH OPEN MOUTH;0HUSHED FACE;",
      "0FACE WITH OPEN MOUTH AND COLD SWEAT;1SCREAMING IN FEAR;",
      "0ASTONISHED FACE;0FLUSHED FACE;0SLEEPING FACE;0DIZZY FACE;",
      "0FACE WITHOUT MOUTH;1WITH MEDICAL MASK;",
      "0GRINNING CAT FACE WITH SMILING EYES;0CAT FACE WITH TEARS OF JOY;",
      "0SMILING CAT FACE WITH OPEN MOUTH;4HEART-SHAPED EYES;",
      "0CAT FACE WITH WRY SMILE;0KISSING CAT FACE WITH CLOSED EYES;",
      "0POUTING CAT FACE;0CRYING CAT FACE;0WEARY CAT FACE;",
      "0SLIGHTLY FROWNING FACE;1SMILING FACE;0UPSIDE-DOWN FACE;",
      "0FACE WITH ROLLING EYES;2NO GOOD GESTURE;2OK GESTURE;",
      "0PERSON BOWING DEEPLY;0SEE-NO-EVIL MONKEY;0HEAR-NO-EVIL MONKEY;",
      "0SPEAK-NO-EVIL MONKEY;0HAPPY PERSON RAISING ONE HAND;",
      "0PERSON RAISING BOTH HANDS IN CELEBRATION;1FROWNING;",
      "1WITH POUTING FACE;2FOLDED HANDS;0NORTH WEST POINTING LEAF;",
      "0SOUTH WEST POINTING LEAF;0NORTH EAST POINTING LEAF;",
      "0SOUTH EAST POINTING LEAF;0TURNED NORTH WEST POINTING LEAF;",
      "1SOUTH WEST POINTING LEAF;1NORTH EAST POINTING LEAF;",
      "1SOUTH EAST POINTING LEAF;0NORTH WEST POINTING VINE LEAF;",
      "0SOUTH WEST POINTING VINE LEAF;0NORTH EAST POINTING VINE LEAF;",
      "0SOUTH EAST POINTING VINE LEAF;0HEAVY NORTH WEST POINTING VINE LEAF;",
      "1SOUTH WEST POINTING VINE LEAF;1NORTH EAST POINTING VINE LEAF;",
      "1SOUTH EAST POINTING VINE LEAF;0NORTH WEST POINTING BUD;",
      "0SOUTH WEST POINTING BUD;0NORTH EAST POINTING BUD;",
      "0SOUTH EAST POINTING BUD;0HEAVY NORTH WEST POINTING BUD;",
      "1SOUTH WEST POINTING BUD;1NORTH EAST POINTING BUD;",
      "1SOUTH EAST POINTING BUD;0HOLLOW QUILT SQUARE ORNAMENT;",
      "4IN BLACK SQUARE;0SOLID QUILT SQUARE ORNAMENT;4IN BLACK SQUARE;",
      "0LEFTWARDS ROCKET;0UPWARDS ROCKET;0RIGHTWARDS ROCKET;",
      "0DOWNWARDS ROCKET;0SCRIPT LIGATURE ET ORNAMENT;",
      "0HEAVY SCRIPT LIGATURE ET ORNAMENT;0LIGATURE OPEN ET ORNAMENT;",
      "0HEAVY LIGATURE OPEN ET ORNAMENT;1AMPERSAND ORNAMENT;",
      "0SWASH AMPERSAND ORNAMENT;",
      "0SANS-SERIF HEAVY DOUBLE TURNED COMMA QUOTATION MARK ORNAMENT;",
      "3COMMA QUOTATION MARK ORNAMENT;",
      "2LOW DOUBLE COMMA QUOTATION MARK ORNAMENT;",
      "0HEAVY INTERROBANG ORNAMENT;0SANS-SERIF INTERROBANG ORNAMENT;",
      "0HEAVY SANS-SERIF INTERROBANG ORNAMENT;0VERY HEAVY SOLIDUS;",
      "2REVERSE SOLIDUS;0CHECKER BOARD;0REVERSE CHECKER BOARD;0ROCKET;",
      "0HELICOPTER;0STEAM LOCOMOTIVE;0RAILWAY CAR;0HIGH-SPEED TRAIN;",
      "2WITH BULLET NOSE;0TRAIN;0METRO;0LIGHT RAIL;0STATION;0TRAM;1CAR;",
      "0BUS;0ONCOMING BUS;0TROLLEYBUS;0BUS STOP;0MINIBUS;0AMBULANCE;",
      "0FIRE ENGINE;0POLICE CAR;0ONCOMING POLICE CAR;0TAXI;0ONCOMING TAXI;",
      "0AUTOMOBILE;0ONCOMING AUTOMOBILE;0RECREATIONAL VEHICLE;",
      "0DELIVERY TRUCK;0ARTICULATED LORRY;0TRACTOR;0MONORAIL;",
      "0MOUNTAIN RAILWAY;0SUSPENSION RAILWAY;0MOUNTAIN CABLEWAY;",
      "0AERIAL TRAMWAY;0SHIP;0ROWBOAT;0SPEEDBOAT;0HORIZONTAL TRAFFIC LIGHT;",
      "0VERTICAL TRAFFIC LIGHT;0CONSTRUCTION SIGN;",
      "0POLICE CARS REVOLVING LIGHT;0TRIANGULAR FLAG ON POST;0DOOR;",
      "0NO ENTRY SIGN;0SMOKING SYMBOL;0NO SMOKING SYMBOL;",
      "0PUT LITTER IN ITS PLACE SYMBOL;0DO NOT LITTER SYMBOL;",
      "0POTABLE WATER SYMBOL;0NON-POTABLE WATER SYMBOL;0BICYCLE;",
      "0NO BICYCLES;0BICYCLIST;0MOUNTAIN BICYCLIST;0PEDESTRIAN;",
      "0NO PEDESTRIANS;0CHILDREN CROSSING;0MENS SYMBOL;0WOMENS SYMBOL;",
      "0RESTROOM;0BABY SYMBOL;0TOILET;0WATER CLOSET;0SHOWER;0BATH;0BATHTUB;",
      "0PASSPORT CONTROL;0CUSTOMS;0BAGGAGE CLAIM;0LEFT LUGGAGE;",
      "0TRIANGLE WITH ROUNDED CORNERS;0PROHIBITED SIGN;",
      "0CIRCLED INFORMATION SOURCE;0BOYS SYMBOL;0GIRLS SYMBOL;",
      "0COUCH AND LAMP;0SLEEPING ACCOMMODATION;0SHOPPING BAGS;",
      "0BELLHOP BELL;0BED;0PLACE OF WORSHIP;0OCTAGONAL SIGN;",
      "0SHOPPING TROLLEY;0STUPA;0PAGODA;0HINDU TEMPLE;0HUT;0ELEVATOR"]⟩,
   ⟨0x1F6DD, ["0PLAYGROUND SLIDE;0WHEEL;0RING BUOY;0HAMMER AND WRENCH;",
      "0SHIELD;0OIL DRUM;0MOTORWAY;0RAILWAY TRACK;0MOTOR BOAT;",
      "0UP-POINTING MILITARY AIRPLANE;1AIRPLANE;1SMALL AIRPLANE;",
      "0SMALL AIRPLANE;0NORTHEAST-POINTING AIRPLANE;0AIRPLANE DEPARTURE;",
      "1ARRIVING"]⟩,
   ⟨0x1F6F0, ["0SATELLITE;0ONCOMING FIRE ENGINE;0DIESEL LOCOMOTIVE;",
      "0PASSENGER SHIP;0SCOOTER;0MOTOR SCOOTER;0CANOE;0SLED;0FLYING SAUCER;",
      "0SKATEBOARD;0AUTO RICKSHAW;0PICKUP TRUCK;0ROLLER SKATE"]⟩,
   ⟨0x1F700, ["0ALCHEMICAL SYMBOL FOR QUINTESSENCE;3AIR;3FIRE;3EARTH;",
      "3WATER;3AQUAFORTIS;3AQUA REGIA;4REGIA-2;4VITAE;4VITAE-2;3VINEGAR;",
      "3VINEGAR-2;3VINEGAR-3;3SULFUR;3PHILOSOPHERS SULFUR;3BLACK SULFUR;",
      "3MERCURY SUBLIMATE;4SUBLIMATE-2;4SUBLIMATE-3;3CINNABAR;3SALT;3NITRE;",
      "3VITRIOL;3VITRIOL-2;3ROCK SALT;4SALT-2;3GOLD;3SILVER;3IRON ORE;",
      "4ORE-2;3CROCUS OF IRON;3REGULUS OF IRON;3COPPER ORE;",
      "3IRON-COPPER ORE;3SUBLIMATE OF COPPER;3CROCUS OF COPPER;5COPPER-2;",
      "3COPPER ANTIMONIATE;3SALT OF COPPER ANTIMONIATE;",
      "3SUBLIMATE OF SALT OF COPPER;3VERDIGRIS;3TIN ORE;3LEAD ORE;",
      "3ANTIMONY ORE;3SUBLIMATE OF ANTIMONY;3SALT OF ANTIMONY;",
      "3SUBLIMATE OF SALT OF ANTIMONY;3VINEGAR OF ANTIMONY;",
      "3REGULUS OF ANTIMONY;5ANTIMONY-2;3REGULUS;3REGULUS-2;3REGULUS-3;",
      "3REGULUS-4;3ALKALI;3ALKALI-2;3MARCASITE;3SAL-AMMONIAC;3ARSENIC;",
      "3REALGAR;3REALGAR-2;3AURIPIGMENT;3BISMUTH ORE;3TARTAR;3TARTAR-2;",
      "3QUICK LIME;3BORAX;3BORAX-2;3BORAX-3;3ALUM;3OIL;3SPIRIT;3TINCTURE;",
      "3GUM;3WAX;3POWDER;3CALX;3TUTTY;3CAPUT MORTUUM;3SCEPTER OF JOVE;",
      "3CADUCEUS;3TRIDENT;3STARRED TRIDENT;3LODESTONE;3SOAP;3URINE;",
      "3HORSE DUNG;3ASHES;3POT ASHES;3BRICK;3POWDERED BRICK;3AMALGAM;",
      "3STRATUM SUPER STRATUM;5STRATUM-2;3SUBLIMATION;3PRECIPITATE;",
      "3DISTILL;3DISSOLVE;3DISSOLVE-2;3PURIFY;3PUTREFACTION;3CRUCIBLE;",
      "3CRUCIBLE-2;3CRUCIBLE-3;3CRUCIBLE-4;3CRUCIBLE-5;3ALEMBIC;",
      "3BATH OF MARY;5VAPOURS;3RETORT;3HOUR;3NIGHT;3DAY-NIGHT;3MONTH;",
      "3HALF DRAM;4OUNCE"]⟩,
   ⟨0x1F780, ["0BLACK LEFT-POINTING ISOSCELES RIGHT TRIANGLE;",
      "1UP-POINTING ISOSCELES RIGHT TRIANGLE;",
      "1RIGHT-POINTING ISOSCELES RIGHT TRIANGLE;",
      "1DOWN-POINTING ISOSCELES RIGHT TRIANGLE;1SLIGHTLY SMALL CIRCLE;",
      "0MEDIUM BOLD WHITE CIRCLE;0BOLD WHITE CIRCLE;0HEAVY WHITE CIRCLE;",
      "0VERY HEAVY WHITE CIRCLE;0EXTREMELY HEAVY WHITE CIRCLE;",
      "0WHITE CIRCLE CONTAINING BLACK SMALL CIRCLE;0ROUND TARGET;",
      "0BLACK TINY SQUARE;1SLIGHTLY SMALL SQUARE;0LIGHT WHITE SQUARE;",
      "0MEDIUM WHITE SQUARE;0BOLD WHITE SQUARE;0HEAVY WHITE SQUARE;",
      "0VERY HEAVY WHITE SQUARE;0EXTREMELY HEAVY WHITE SQUARE;",
      "0WHITE SQUARE CONTAINING BLACK VERY SMALL SQUARE;4MEDIUM SQUARE;",
      "0SQUARE TARGET;0BLACK TINY DIAMOND;1VERY SMALL DIAMOND;",
      "1MEDIUM SMALL DIAMOND;",
      "0WHITE DIAMOND CONTAINING BLACK VERY SMALL DIAMOND;4MEDIUM DIAMOND;",
      "0DIAMOND TARGET;0BLACK TINY LOZENGE;1VERY SMALL LOZENGE;",
      "1MEDIUM SMALL LOZENGE;0WHITE LOZENGE CONTAINING BLACK SMALL LOZENGE;",
      "0THIN GREEK CROSS;0LIGHT GREEK CROSS;0MEDIUM GREEK CROSS;",
      "0BOLD GREEK CROSS;0VERY BOLD GREEK CROSS;1HEAVY GREEK CROSS;",
      "0EXTREMELY HEAVY GREEK CROSS;0THIN SALTIRE;0LIGHT SALTIRE;",
      "0MEDIUM SALTIRE;0BOLD SALTIRE;0HEAVY SALTIRE;0VERY HEAVY SALTIRE;",
      "0EXTREMELY HEAVY SALTIRE;0LIGHT FIVE SPOKED ASTERISK;",
      "0MEDIUM FIVE SPOKED ASTERISK;0BOLD FIVE SPOKED ASTERISK;",
      "0HEAVY FIVE SPOKED ASTERISK;0VERY HEAVY FIVE SPOKED ASTERISK;",
      "0EXTREMELY HEAVY FIVE SPOKED ASTERISK;0LIGHT SIX SPOKED ASTERISK;",
      "0MEDIUM SIX SPOKED ASTERISK;0BOLD SIX SPOKED ASTERISK;",
      "0HEAVY SIX SPOKED ASTERISK;0VERY HEAVY SIX SPOKED ASTERISK;",
      "0EXTREMELY HEAVY SIX SPOKED ASTERISK;0LIGHT EIGHT SPOKED ASTERISK;",
      "0MEDIUM EIGHT SPOKED ASTERISK;0BOLD EIGHT SPOKED ASTERISK;",
      "0HEAVY EIGHT SPOKED ASTERISK;0VERY HEAVY EIGHT SPOKED ASTERISK;",
      "0LIGHT THREE POINTED BLACK STAR;0MEDIUM THREE POINTED BLACK STAR;",
      "0THREE POINTED BLACK STAR;0MEDIUM THREE POINTED PINWHEEL STAR;",
      "0LIGHT FOUR POINTED BLACK STAR;0MEDIUM FOUR POINTED BLACK STAR;",
      "0FOUR POINTED BLACK STAR;0MEDIUM FOUR POINTED PINWHEEL STAR;",
      "0REVERSE LIGHT FOUR POINTED PINWHEEL STAR;",
      "0LIGHT FIVE POINTED BLACK STAR;0HEAVY FIVE POINTED BLACK STAR;",
      "0MEDIUM SIX POINTED BLACK STAR;0HEAVY SIX POINTED BLACK STAR;",
      "0SIX POINTED PINWHEEL STAR;0MEDIUM EIGHT POINTED BLACK STAR;",
      "0HEAVY EIGHT POINTED BLACK STAR;",
      "0VERY HEAVY EIGHT POINTED BLACK STAR;",
      "0HEAVY EIGHT POINTED PINWHEEL STAR;0LIGHT TWELVE POINTED BLACK STAR;",
      "0HEAVY TWELVE POINTED BLACK STAR;3PINWHEEL STAR;0CIRCLED TRIANGLE;",
      "0NEGATIVE CIRCLED TRIANGLE;0CIRCLED SQUARE;",
      "0NEGATIVE CIRCLED SQUARE"]⟩,
   ⟨0x1F7E0, ["0LARGE ORANGE CIRCLE;1YELLOW CIRCLE;1GREEN CIRCLE;",
      "1PURPLE CIRCLE;1BROWN CIRCLE;1RED SQUARE;1BLUE SQUARE;",
      "1ORANGE SQUARE;1YELLOW SQUARE;1GREEN SQUARE;1PURPLE SQUARE;",
      "1BROWN SQUARE"]⟩,
   ⟨0x1F7F0, ["0HEAVY EQUALS SIGN"]⟩,
   ⟨0x1F800, ["0LEFTWARDS ARROW WITH SMALL TRIANGLE ARROWHEAD;",
      "0UPWARDS ARROW WITH SMALL TRIANGLE ARROWHEAD;",
      "0RIGHTWARDS ARROW WITH SMALL TRIANGLE ARROWHEAD;",
      "0DOWNWARDS ARROW WITH SMALL TRIANGLE ARROWHEAD;",
      "0LEFTWARDS ARROW WITH MEDIUM TRIANGLE ARROWHEAD;",
      "0UPWARDS ARROW WITH MEDIUM TRIANGLE ARROWHEAD;",
      "0RIGHTWARDS ARROW WITH MEDIUM TRIANGLE ARROWHEAD;",
      "0DOWNWARDS ARROW WITH MEDIUM TRIANGLE ARROWHEAD;",
      "0LEFTWARDS ARROW WITH LARGE TRIANGLE ARROWHEAD;",
      "0UPWARDS ARROW WITH LARGE TRIANGLE ARROWHEAD;",
      "0RIGHTWARDS ARROW WITH LARGE TRIANGLE ARROWHEAD;",
      "0DOWNWARDS ARROW WITH LARGE TRIANGLE ARROWHEAD"]⟩,
   ⟨0x1F810, ["0LEFTWARDS ARROW WITH SMALL EQUILATERAL ARROWHEAD;",
      "0UPWARDS ARROW WITH SMALL EQUILATERAL ARROWHEAD;",
      "0RIGHTWARDS ARROW WITH SMALL EQUILATERAL ARROWHEAD;",
      "0DOWNWARDS ARROW WITH SMALL EQUILATERAL ARROWHEAD;",
      "0LEFTWARDS ARROW WITH EQUILATERAL ARROWHEAD;",
      "0UPWARDS ARROW WITH EQUILATERAL ARROWHEAD;",
      "0RIGHTWARDS ARROW WITH EQUILATERAL ARROWHEAD;",
      "0DOWNWARDS ARROW WITH EQUILATERAL ARROWHEAD;",
      "0HEAVY LEFTWARDS ARROW WITH EQUILATERAL ARROWHEAD;",
      "1UPWARDS ARROW WITH EQUILATERAL ARROWHEAD;",
      "1RIGHTWARDS ARROW WITH EQUILATERAL ARROWHEAD;",
      "1DOWNWARDS ARROW WITH EQUILATERAL ARROWHEAD;",
      "1LEFTWARDS ARROW WITH LARGE EQUILATERAL ARROWHEAD;",
      "1UPWARDS ARROW WITH LARGE EQUILATERAL ARROWHEAD;",
      "1RIGHTWARDS ARROW WITH LARGE EQUILATERAL ARROWHEAD;",
      "1DOWNWARDS ARROW WITH LARGE EQUILATERAL ARROWHEAD;",
      "0LEFTWARDS TRIANGLE-HEADED ARROW WITH NARROW SHAFT;",
      "0UPWARDS TRIANGLE-HEADED ARROW WITH NARROW SHAFT;",
      "0RIGHTWARDS TRIANGLE-HEADED ARROW WITH NARROW SHAFT;",
      "0DOWNWARDS TRIANGLE-HEADED ARROW WITH NARROW SHAFT;",
      "0LEFTWARDS TRIANGLE-HEADED ARROW WITH MEDIUM SHAFT;",
      "0UPWARDS TRIANGLE-HEADED ARROW WITH MEDIUM SHAFT;",
      "0RIGHTWARDS TRIANGLE-HEADED ARROW WITH MEDIUM SHAFT;",
      "0DOWNWARDS TRIANGLE-HEADED ARROW WITH MEDIUM SHAFT;",
      "0LEFTWARDS TRIANGLE-HEADED ARROW WITH BOLD SHAFT;",
      "0UPWARDS TRIANGLE-HEADED ARROW WITH BOLD SHAFT;",
      "0RIGHTWARDS TRIANGLE-HEADED ARROW WITH BOLD SHAFT;",
      "0DOWNWARDS TRIANGLE-HEADED ARROW WITH BOLD SHAFT;",
      "0LEFTWARDS TRIANGLE-HEADED ARROW WITH HEAVY SHAFT;",
      "0UPWARDS TRIANGLE-HEADED ARROW WITH HEAVY SHAFT;",
      "0RIGHTWARDS TRIANGLE-HEADED ARROW WITH HEAVY SHAFT;",
      "0DOWNWARDS TRIANGLE-HEADED ARROW WITH HEAVY SHAFT;",
      "0LEFTWARDS TRIANGLE-HEADED ARROW WITH VERY HEAVY SHAFT;",
      "0UPWARDS TRIANGLE-HEADED ARROW WITH VERY HEAVY SHAFT;",
      "0RIGHTWARDS TRIANGLE-HEADED ARROW WITH VERY HEAVY SHAFT;",
      "0DOWNWARDS TRIANGLE-HEADED ARROW WITH VERY HEAVY SHAFT;",
      "0LEFTWARDS FINGER-POST ARROW;0UPWARDS FINGER-POST ARROW;",
      "0RIGHTWARDS FINGER-POST ARROW;0DOWNWARDS FINGER-POST ARROW;",
      "0LEFTWARDS SQUARED ARROW;0UPWARDS SQUARED ARROW;",
      "0RIGHTWARDS SQUARED ARROW;0DOWNWARDS SQUARED ARROW;",
      "0LEFTWARDS COMPRESSED ARROW;0UPWARDS COMPRESSED ARROW;",
      "0RIGHTWARDS COMPRESSED ARROW;0DOWNWARDS COMPRESSED ARROW;",
      "0LEFTWARDS HEAVY COMPRESSED ARROW;0UPWARDS HEAVY COMPRESSED ARROW;",
      "0RIGHTWARDS HEAVY COMPRESSED ARROW;",
      "0DOWNWARDS HEAVY COMPRESSED ARROW;0LEFTWARDS HEAVY ARROW;",
      "0UPWARDS HEAVY ARROW;0RIGHTWARDS HEAVY ARROW;",
      "0DOWNWARDS HEAVY ARROW"]⟩,
   ⟨0x1F850, ["0LEFTWARDS SANS-SERIF ARROW;0UPWARDS SANS-SERIF ARROW;",
      "0RIGHTWARDS SANS-SERIF ARROW;0DOWNWARDS SANS-SERIF ARROW;",
      "0NORTH WEST SANS-SERIF ARROW;1EAST SANS-SERIF ARROW;",
      "0SOUTH EAST SANS-SERIF ARROW;1WEST SANS-SERIF ARROW;",
      "0LEFT RIGHT SANS-SERIF ARROW;0UP DOWN SANS-SERIF ARROW"]⟩,
   ⟨0x1F860, ["0WIDE-HEADED LEFTWARDS LIGHT BARB ARROW;",
      "1UPWARDS LIGHT BARB ARROW;1RIGHTWARDS LIGHT BARB ARROW;",
      "1DOWNWARDS LIGHT BARB ARROW;1NORTH WEST LIGHT BARB ARROW;",
      "2EAST LIGHT BARB ARROW;1SOUTH EAST LIGHT BARB ARROW;",
      "2WEST LIGHT BARB ARROW;1LEFTWARDS BARB ARROW;1UPWARDS BARB ARROW;",
      "1RIGHTWARDS BARB ARROW;1DOWNWARDS BARB ARROW;1NORTH WEST BARB ARROW;",
      "2EAST BARB ARROW;1SOUTH EAST BARB ARROW;2WEST BARB ARROW;",
      "1LEFTWARDS MEDIUM BARB ARROW;1UPWARDS MEDIUM BARB ARROW;",
      "1RIGHTWARDS MEDIUM BARB ARROW;1DOWNWARDS MEDIUM BARB ARROW;",
      "1NORTH WEST MEDIUM BARB ARROW;2EAST MEDIUM BARB ARROW;",
      "1SOUTH EAST MEDIUM BARB ARROW;2WEST MEDIUM BARB ARROW;",
      "1LEFTWARDS HEAVY BARB ARROW;1UPWARDS HEAVY BARB ARROW;",
      "1RIGHTWARDS HEAVY BARB ARROW;1DOWNWARDS HEAVY BARB ARROW;",
      "1NORTH WEST HEAVY BARB ARROW;2EAST HEAVY BARB ARROW;",
      "1SOUTH EAST HEAVY BARB ARROW;2WEST HEAVY BARB ARROW;",
      "1LEFTWARDS VERY HEAVY BARB ARROW;1UPWARDS VERY HEAVY BARB ARROW;",
      "1RIGHTWARDS VERY HEAVY BARB ARROW;1DOWNWARDS VERY HEAVY BARB ARROW;",
      "1NORTH WEST VERY HEAVY BARB ARROW;2EAST VERY HEAVY BARB ARROW;",
      "1SOUTH EAST VERY HEAVY BARB ARROW;2WEST VERY HEAVY BARB ARROW"]⟩,
   ⟨0x1F890, ["0LEFTWARDS TRIANGLE ARROWHEAD;0UPWARDS TRIANGLE ARROWHEAD;",
      "0RIGHTWARDS TRIANGLE ARROWHEAD;0DOWNWARDS TRIANGLE ARROWHEAD;",
      "0LEFTWARDS WHITE ARROW WITHIN TRIANGLE ARROWHEAD;",
      "0UPWARDS WHITE ARROW WITHIN TRIANGLE ARROWHEAD;",
      "0RIGHTWARDS WHITE ARROW WITHIN TRIANGLE ARROWHEAD;",
      "0DOWNWARDS WHITE ARROW WITHIN TRIANGLE ARROWHEAD;",
      "0LEFTWARDS ARROW WITH NOTCHED TAIL;0UPWARDS ARROW WITH NOTCHED TAIL;",
      "0RIGHTWARDS ARROW WITH NOTCHED TAIL;",
      "0DOWNWARDS ARROW WITH NOTCHED TAIL;0HEAVY ARROW SHAFT WIDTH ONE;",
      "4TWO THIRDS;4ONE HALF;5THIRD;0LEFTWARDS BOTTOM-SHADED WHITE ARROW;",
      "0RIGHTWARDS BOTTOM SHADED WHITE ARROW;",
      "0LEFTWARDS TOP SHADED WHITE ARROW;",
      "0RIGHTWARDS TOP SHADED WHITE ARROW;",
      "0LEFTWARDS LEFT-SHADED WHITE ARROW;",
      "0RIGHTWARDS RIGHT-SHADED WHITE ARROW;",
      "0LEFTWARDS RIGHT-SHADED WHITE ARROW;",
      "0RIGHTWARDS LEFT-SHADED WHITE ARROW;",
      "0LEFTWARDS BACK-TILTED SHADOWED WHITE ARROW;",
      "0RIGHTWARDS BACK-TILTED SHADOWED WHITE ARROW;",
      "0LEFTWARDS FRONT-TILTED SHADOWED WHITE ARROW;",
      "0RIGHTWARDS FRONT-TILTED SHADOWED WHITE ARROW;",
      "0WHITE ARROW SHAFT WIDTH ONE;4TWO THIRDS"]⟩,
   ⟨0x1F8B0, ["0ARROW POINTING UPWARDS THEN NORTH WEST;",
      "2RIGHTWARDS THEN CURVING SOUTH WEST"]⟩,
   ⟨0x1F900, ["0CIRCLED CROSS FORMEE WITH FOUR DOTS;4TWO DOTS;2FORMEE;",
      "0LEFT HALF CIRCLE WITH FOUR DOTS;4THREE DOTS;4TWO DOTS;4DOT;2CIRCLE;",
      "0DOWNWARD FACING HOOK;2NOTCHED HOOK;2HOOK WITH DOT;",
      "2NOTCHED HOOK WITH DOT;0PINCHED FINGERS;0WHITE HEART;0BROWN HEART;",
      "0PINCHING HAND;0ZIPPER-MOUTH FACE;0MONEY-MOUTH FACE;",
      "0FACE WITH THERMOMETER;0NERD FACE;0THINKING FACE;",
      "0FACE WITH HEAD-BANDAGE;0ROBOT FACE;0HUGGING FACE;",
      "0SIGN OF THE HORNS;0CALL ME HAND;0RAISED BACK OF HAND;",
      "0LEFT-FACING FIST;0RIGHT-FACING FIST;0HANDSHAKE;",
      "0HAND WITH INDEX AND MIDDLE FINGERS CROSSED;0I LOVE YOU HAND SIGN;",
      "0FACE WITH COWBOY HAT;0CLOWN FACE;0NAUSEATED FACE;",
      "0ROLLING ON THE FLOOR LAUGHING;0DROOLING FACE;0LYING FACE;",
      "0FACE PALM;0SNEEZING FACE;0FACE WITH ONE EYEBROW RAISED;",
      "0GRINNING FACE WITH STAR EYES;3ONE LARGE AND ONE SMALL EYE;",
      "0FACE WITH FINGER COVERING CLOSED LIPS;",
      "0SERIOUS FACE WITH SYMBOLS COVERING MOUTH;",
      "0SMILING FACE WITH SMILING EYES AND HAND COVERING MOUTH;",
      "0FACE WITH OPEN MOUTH VOMITING;0SHOCKED FACE WITH EXPLODING HEAD;",
      "0PREGNANT WOMAN;0BREAST-FEEDING;0PALMS UP TOGETHER;0SELFIE;0PRINCE;",
      "0MAN IN TUXEDO;0MOTHER CHRISTMAS;0SHRUG;0PERSON DOING CARTWHEEL;",
      "0JUGGLING;0FENCER;0MODERN PENTATHLON;0WRESTLERS;0WATER POLO;",
      "0HANDBALL;0DIVING MASK;0WILTED FLOWER;0DRUM WITH DRUMSTICKS;",
      "0CLINKING GLASSES;0TUMBLER GLASS;0SPOON;0GOAL NET;0RIFLE;",
      "0FIRST PLACE MEDAL;0SECOND PLACE MEDAL;0THIRD PLACE MEDAL;",
      "0BOXING GLOVE;0MARTIAL ARTS UNIFORM;0CURLING STONE;",
      "0LACROSSE STICK AND BALL;0SOFTBALL;0FLYING DISC;0CROISSANT;0AVOCADO;",
      "0CUCUMBER;0BACON;0POTATO;0CARROT;0BAGUETTE BREAD;0GREEN SALAD;",
      "0SHALLOW PAN OF FOOD;0STUFFED FLATBREAD;0EGG;0GLASS OF MILK;",
      "0PEANUTS;0KIWIFRUIT;0PANCAKES;0DUMPLING;0FORTUNE COOKIE;",
      "0TAKEOUT BOX;0CHOPSTICKS;0BOWL WITH SPOON;0CUP WITH STRAW;0COCONUT;",
      "0BROCCOLI;0PIE;0PRETZEL;0CUT OF MEAT;0SANDWICH;0CANNED FOOD;",
      "0LEAFY GREEN;0MANGO;0MOON CAKE;0BAGEL;",
      "0SMILING FACE WITH SMILING EYES AND THREE HEARTS;0YAWNING FACE;",
      "0SMILING FACE WITH TEAR;0FACE WITH PARTY HORN AND PARTY HAT;",
      "2UNEVEN EYES AND WAVY MOUTH;0OVERHEATED FACE;0FREEZING FACE;0NINJA;",
      "0DISGUISED FACE;0FACE HOLDING BACK TEARS;1WITH PLEADING EYES;0SARI;",
      "0LAB COAT;0GOGGLES;0HIKING BOOT;0FLAT SHOE;0CRAB;0LION FACE;",
      "0SCORPION;0TURKEY;0UNICORN FACE;0EAGLE;0DUCK;0BAT;0SHARK;0OWL;",
      "0FOX FACE;0BUTTERFLY;0DEER;0GORILLA;0LIZARD;0RHINOCEROS;0SHRIMP;",
      "0SQUID;0GIRAFFE FACE;0ZEBRA FACE;0HEDGEHOG;0SAUROPOD;0T-REX;",
      "0CRICKET;0KANGAROO;0LLAMA;0PEACOCK;0HIPPOPOTAMUS;0PARROT;0RACCOON;",
      "0LOBSTER;0MOSQUITO;0MICROBE;0BADGER;0SWAN;0MAMMOTH;0DODO;0SLOTH;",
      "0OTTER;0ORANGUTAN;0SKUNK;0FLAMINGO;0OYSTER;0BEAVER;0BISON;0SEAL;",
      "0GUIDE DOG;0PROBING CANE;0EMOJI COMPONENT RED HAIR;2CURLY HAIR;",
      "2BALD;2WHITE HAIR;0BONE;0LEG;0FOOT;0TOOTH;0SUPERHERO;0SUPERVILLAIN;",
      "0SAFETY VEST;0EAR WITH HEARING AID;0MOTORIZED WHEELCHAIR;",
      "0MANUAL WHEELCHAIR;0MECHANICAL ARM;1LEG;0CHEESE WEDGE;0CUPCAKE;",
      "0SALT SHAKER;0BEVERAGE BOX;0GARLIC;0ONION;0FALAFEL;0WAFFLE;0BUTTER;",
      "0MATE DRINK;0ICE CUBE;0BUBBLE TEA;0TROLL;0STANDING PERSON;",
      "0KNEELING PERSON;0DEAF PERSON;0FACE WITH MONOCLE;0ADULT;0CHILD;",
      "0OLDER ADULT;0BEARDED PERSON;0PERSON WITH HEADSCARF;1IN STEAMY ROOM;",
      "1CLIMBING;1IN LOTUS POSITION;0MAGE;0FAIRY;0VAMPIRE;0MERPERSON;0ELF;",
      "0GENIE;0ZOMBIE;0BRAIN;0ORANGE HEART;0BILLED CAP;0SCARF;0GLOVES;",
      "0COAT;0SOCKS;0RED GIFT ENVELOPE;0FIRECRACKER;0JIGSAW PUZZLE PIECE;",
      "0TEST TUBE;0PETRI DISH;0DNA DOUBLE HELIX;0COMPASS;0ABACUS;",
      "0FIRE EXTINGUISHER;0TOOLBOX;0BRICK;0MAGNET;0LUGGAGE;0LOTION BOTTLE;",
      "0SPOOL OF THREAD;0BALL OF YARN;0SAFETY PIN;0TEDDY BEAR;0BROOM;",
      "0BASKET;0ROLL OF PAPER;0BAR OF SOAP;0SPONGE;0RECEIPT;0NAZAR AMULET;",
      "0NEUTRAL CHESS KING;2QUEEN;2ROOK;2BISHOP;2KNIGHT;2PAWN;",
      "0WHITE CHESS KNIGHT ROTATED FORTY-FIVE DEGREES;",
      "0BLACK CHESS KNIGHT ROTATED FORTY-FIVE DEGREES;",
      "0NEUTRAL CHESS KNIGHT ROTATED FORTY-FIVE DEGREES;",
      "0WHITE CHESS KING ROTATED NINETY DEGREES;",
      "2QUEEN ROTATED NINETY DEGREES;2ROOK ROTATED NINETY DEGREES;",
      "2BISHOP ROTATED NINETY DEGREES;2KNIGHT ROTATED NINETY DEGREES;",
      "2PAWN ROTATED NINETY DEGREES;",
      "0BLACK CHESS KING ROTATED NINETY DEGREES;",
      "2QUEEN ROTATED NINETY DEGREES;2ROOK ROTATED NINETY DEGREES;",
      "2BISHOP ROTATED NINETY DEGREES;2KNIGHT ROTATED NINETY DEGREES;",
      "2PAWN ROTATED NINETY DEGREES;",
      "0NEUTRAL CHESS KING ROTATED NINETY DEGREES;",
      "2QUEEN ROTATED NINETY DEGREES;2ROOK ROTATED NINETY DEGREES;",
      "2BISHOP ROTATED NINETY DEGREES;2KNIGHT ROTATED NINETY DEGREES;",
      "2PAWN ROTATED NINETY DEGREES;",
      "0WHITE CHESS KNIGHT ROTATED ONE HUNDRED THIRTY-FIVE DEGREES;",
      "0BLACK CHESS KNIGHT ROTATED ONE HUNDRED THIRTY-FIVE DEGREES;",
      "0NEUTRAL CHESS KNIGHT ROTATED ONE HUNDRED THIRTY-FIVE DEGREES;",
      "0WHITE CHESS TURNED KING;3QUEEN;3ROOK;3BISHOP;3KNIGHT;3PAWN;",
      "0BLACK CHESS TURNED KING;3QUEEN;3ROOK;3BISHOP;3KNIGHT;3PAWN;",
      "0NEUTRAL CHESS TURNED KING;3QUEEN;3ROOK;3BISHOP;3KNIGHT;3PAWN;",
      "0WHITE CHESS KNIGHT ROTATED TWO HUNDRED TWENTY-FIVE DEGREES;",
      "0BLACK CHESS KNIGHT ROTATED TWO HUNDRED TWENTY-FIVE DEGREES;",
      "0NEUTRAL CHESS KNIGHT ROTATED TWO HUNDRED TWENTY-FIVE DEGREES;",
      "0WHITE CHESS KING ROTATED TWO HUNDRED SEVENTY DEGREES;",
      "2QUEEN ROTATED TWO HUNDRED SEVENTY DEGREES;",
      "2ROOK ROTATED TWO HUNDRED SEVENTY DEGREES;",
      "2BISHOP ROTATED TWO HUNDRED SEVENTY DEGREES;",
      "2KNIGHT ROTATED TWO HUNDRED SEVENTY DEGREES;",
      "2PAWN ROTATED TWO HUNDRED SEVENTY DEGREES;",
      "0BLACK CHESS KING ROTATED TWO HUNDRED SEVENTY DEGREES;",
      "2QUEEN ROTATED TWO HUNDRED SEVENTY DEGREES;",
      "2ROOK ROTATED TWO HUNDRED SEVENTY DEGREES;",
      "2BISHOP ROTATED TWO HUNDRED SEVENTY DEGREES;",
      "2KNIGHT ROTATED TWO HUNDRED SEVENTY DEGREES;",
      "2PAWN ROTATED TWO HUNDRED SEVENTY DEGREES;",
      "0NEUTRAL CHESS KING ROTATED TWO HUNDRED SEVENTY DEGREES;",
      "2QUEEN ROTATED TWO HUNDRED SEVENTY DEGREES;",
      "2ROOK ROTATED TWO HUNDRED SEVENTY DEGREES;",
      "2BISHOP ROTATED TWO HUNDRED SEVENTY DEGREES;",
      "2KNIGHT ROTATED TWO HUNDRED SEVENTY DEGREES;",
      "2PAWN ROTATED TWO HUNDRED SEVENTY DEGREES;",
      "0WHITE CHESS KNIGHT ROTATED THREE HUNDRED FIFTEEN DEGREES;",
      "0BLACK CHESS KNIGHT ROTATED THREE HUNDRED FIFTEEN DEGREES;",
      "0NEUTRAL CHESS KNIGHT ROTATED THREE HUNDRED FIFTEEN DEGREES;",
      "0WHITE CHESS EQUIHOPPER;0BLACK CHESS EQUIHOPPER;",
      "0NEUTRAL CHESS EQUIHOPPER;",
      "0WHITE CHESS EQUIHOPPER ROTATED NINETY DEGREES;",
      "0BLACK CHESS EQUIHOPPER ROTATED NINETY DEGREES;",
      "0NEUTRAL CHESS EQUIHOPPER ROTATED NINETY DEGREES;",
      "0WHITE CHESS KNIGHT-QUEEN;2KNIGHT-ROOK;2KNIGHT-BISHOP;",
      "0BLACK CHESS KNIGHT-QUEEN;2KNIGHT-ROOK;2KNIGHT-BISHOP"]⟩,
   ⟨0x1FA60, ["0XIANGQI RED GENERAL;2MANDARIN;2ELEPHANT;2HORSE;2CHARIOT;",
      "2CANNON;2SOLDIER;1BLACK GENERAL;2MANDARIN;2ELEPHANT;2HORSE;2CHARIOT;",
      "2CANNON;2SOLDIER"]⟩,
   ⟨0x1FA70, ["0BALLET SHOES;0ONE-PIECE SWIMSUIT;0BRIEFS;0SHORTS;",
      "0THONG SANDAL"]⟩,
   ⟨0x1FA78, ["0DROP OF BLOOD;0ADHESIVE BANDAGE;0STETHOSCOPE;0X-RAY;",
      "0CRUTCH"]⟩,
   ⟨0x1FA80, ["0YO-YO;0KITE;0PARACHUTE;0BOOMERANG;0MAGIC WAND;0PINATA;",
      "0NESTING DOLLS"]⟩,
   ⟨0x1FA90, ["0RINGED PLANET;0CHAIR;0RAZOR;0AXE;0DIYA LAMP;0BANJO;",
      "0MILITARY HELMET;0ACCORDION;0LONG DRUM;0COIN;0CARPENTRY SAW;",
      "0SCREWDRIVER;0LADDER;0HOOK;0MIRROR;0WINDOW;0PLUNGER;0SEWING NEEDLE;",
      "0KNOT;0BUCKET;0MOUSE TRAP;0TOOTHBRUSH;0HEADSTONE;0PLACARD;0ROCK;",
      "0MIRROR BALL;0IDENTIFICATION CARD;0LOW BATTERY;0HAMSA"]⟩,
   ⟨0x1FAB0, ["0FLY;0WORM;0BEETLE;0COCKROACH;0POTTED PLANT;0WOOD;0FEATHER;",
      "0LOTUS;0CORAL;0EMPTY NEST;0NEST WITH EGGS"]⟩,
   ⟨0x1FAC0, ["0ANATOMICAL HEART;0LUNGS;0PEOPLE HUGGING;0PREGNANT MAN;",
      "1PERSON;0PERSON WITH CROWN"]⟩,
   ⟨0x1FAD0, ["0BLUEBERRIES;0BELL PEPPER;0OLIVE;0FLATBREAD;0TAMALE;0FONDUE;",
      "0TEAPOT;0POURING LIQUID;0BEANS;0JAR"]⟩,
   ⟨0x1FAE0, ["0MELTING FACE;0SALUTING FACE;",
      "0FACE WITH OPEN EYES AND HAND OVER MOUTH;2PEEKING EYE;",
      "2DIAGONAL MOUTH;0DOTTED LINE FACE;0BITING LIP;0BUBBLES"]⟩,
   ⟨0x1FAF0, ["0HAND WITH INDEX FINGER AND THUMB CROSSED;0RIGHTWARDS HAND;",
      "0LEFTWARDS HAND;0PALM DOWN HAND;1UP HAND;",
      "0INDEX POINTING AT THE VIEWER;0HEART HANDS"]⟩,
   ⟨0x1FB00, ["0BLOCK SEXTANT-1;1SEXTANT-2;1SEXTANT-12;1SEXTANT-3;",
      "1SEXTANT-13;1SEXTANT-23;1SEXTANT-123;1SEXTANT-4;1SEXTANT-14;",
      "1SEXTANT-24;1SEXTANT-124;1SEXTANT-34;1SEXTANT-134;1SEXTANT-234;",
      "1SEXTANT-1234;1SEXTANT-5;1SEXTANT-15;1SEXTANT-25;1SEXTANT-125;",
      "1SEXTANT-35;1SEXTANT-235;1SEXTANT-1235;1SEXTANT-45;1SEXTANT-145;",
      "1SEXTANT-245;1SEXTANT-1245;1SEXTANT-345;1SEXTANT-1345;1SEXTANT-2345;",
      "1SEXTANT-12345;1SEXTANT-6;1SEXTANT-16;1SEXTANT-26;1SEXTANT-126;",
      "1SEXTANT-36;1SEXTANT-136;1SEXTANT-236;1SEXTANT-1236;1SEXTANT-46;",
      "1SEXTANT-146;1SEXTANT-1246;1SEXTANT-346;1SEXTANT-1346;1SEXTANT-2346;",
      "1SEXTANT-12346;1SEXTANT-56;1SEXTANT-156;1SEXTANT-256;1SEXTANT-1256;",
      "1SEXTANT-356;1SEXTANT-1356;1SEXTANT-2356;1SEXTANT-12356;",
      "1SEXTANT-456;1SEXTANT-1456;1SEXTANT-2456;1SEXTANT-12456;",
      "1SEXTANT-3456;1SEXTANT-13456;1SEXTANT-23456;",
      "0LOWER LEFT BLOCK DIAGONAL LOWER MIDDLE LEFT TO LOWER CENTRE;9RIGHT;",
      "4UPPER MIDDLE LEFT TO LOWER CENTRE;9RIGHT;5LEFT TO LOWER CENTRE;",
      "1RIGHT BLOCK DIAGONAL UPPER MIDDLE LEFT TO UPPER CENTRE;9RIGHT;",
      "4LOWER MIDDLE LEFT TO UPPER CENTRE;9RIGHT;5LEFT TO UPPER CENTRE;",
      "5MIDDLE LEFT TO UPPER MIDDLE RIGHT;5CENTRE TO LOWER MIDDLE RIGHT;",
      "5LEFT TO LOWER MIDDLE RIGHT;5CENTRE TO UPPER MIDDLE RIGHT;",
      "5LEFT TO UPPER MIDDLE RIGHT;5CENTRE TO UPPER RIGHT;",
      "1LEFT BLOCK DIAGONAL UPPER CENTRE TO UPPER MIDDLE RIGHT;",
      "5LEFT TO UPPER MIDDLE RIGHT;5CENTRE TO LOWER MIDDLE RIGHT;",
      "5LEFT TO LOWER MIDDLE RIGHT;5CENTRE TO LOWER RIGHT;",
      "5MIDDLE LEFT TO LOWER MIDDLE RIGHT;",
      "0UPPER RIGHT BLOCK DIAGONAL LOWER MIDDLE LEFT TO LOWER CENTRE;",
      "9RIGHT;4UPPER MIDDLE LEFT TO LOWER CENTRE;9RIGHT;",
      "5LEFT TO LOWER CENTRE;",
      "1LEFT BLOCK DIAGONAL UPPER MIDDLE LEFT TO UPPER CENTRE;9RIGHT;",
      "4LOWER MIDDLE LEFT TO UPPER CENTRE;9RIGHT;5LEFT TO UPPER CENTRE;",
      "5MIDDLE LEFT TO UPPER MIDDLE RIGHT;5CENTRE TO LOWER MIDDLE RIGHT;",
      "5LEFT TO LOWER MIDDLE RIGHT;5CENTRE TO UPPER MIDDLE RIGHT;",
      "5LEFT TO UPPER MIDDLE RIGHT;5CENTRE TO UPPER RIGHT;",
      "1RIGHT BLOCK DIAGONAL UPPER CENTRE TO UPPER MIDDLE RIGHT;",
      "5LEFT TO UPPER MIDDLE RIGHT;5CENTRE TO LOWER MIDDLE RIGHT;",
      "5LEFT TO LOWER MIDDLE RIGHT;5CENTRE TO LOWER RIGHT;",
      "5MIDDLE LEFT TO LOWER MIDDLE RIGHT;",
      "1AND RIGHT AND LOWER TRIANGULAR THREE QUARTERS BLOCK;",
      "0LEFT AND LOWER AND RIGHT TRIANGULAR THREE QUARTERS BLOCK;",
      "0UPPER AND LEFT AND LOWER TRIANGULAR THREE QUARTERS BLOCK;",
      "0LEFT AND UPPER AND RIGHT TRIANGULAR THREE QUARTERS BLOCK;",
      "1TRIANGULAR ONE QUARTER BLOCK;0UPPER TRIANGULAR ONE QUARTER BLOCK;",
      "0RIGHT TRIANGULAR ONE QUARTER BLOCK;",
      "0LOWER TRIANGULAR ONE QUARTER BLOCK;0VERTICAL ONE EIGHTH BLOCK-2;",
      "3BLOCK-3;3BLOCK-4;3BLOCK-5;3BLOCK-6;3BLOCK-7;",
      "0HORIZONTAL ONE EIGHTH BLOCK-2;3BLOCK-3;3BLOCK-4;3BLOCK-5;3BLOCK-6;",
      "3BLOCK-7;0LEFT AND LOWER ONE EIGHTH BLOCK;2UPPER ONE EIGHTH BLOCK;",
      "0RIGHT AND UPPER ONE EIGHTH BLOCK;2LOWER ONE EIGHTH BLOCK;",
      "0UPPER AND LOWER ONE EIGHTH BLOCK;0HORIZONTAL ONE EIGHTH BLOCK-1358;",
      "0UPPER ONE QUARTER BLOCK;1THREE EIGHTHS BLOCK;1FIVE EIGHTHS BLOCK;",
      "1THREE QUARTERS BLOCK;1SEVEN EIGHTHS BLOCK;0RIGHT ONE QUARTER BLOCK;",
      "1THREE EIGHTHS BLOCK;1FIVE EIGHTHS BLOCK;1THREE QUARTERS BLOCK;",
      "1SEVEN EIGHTHS BLOCK;0LEFT HALF MEDIUM SHADE;",
      "0RIGHT HALF MEDIUM SHADE;0UPPER HALF MEDIUM SHADE;",
      "0LOWER HALF MEDIUM SHADE;0INVERSE MEDIUM SHADE;",
      "0UPPER HALF BLOCK AND LOWER HALF INVERSE MEDIUM SHADE;",
      "2INVERSE MEDIUM SHADE AND LOWER HALF BLOCK"]⟩,
   ⟨0x1FB94, ["0LEFT HALF INVERSE MEDIUM SHADE AND RIGHT HALF BLOCK;",
      "0CHECKER BOARD FILL;0INVERSE CHECKER BOARD FILL;",
      "0HEAVY HORIZONTAL FILL;0UPPER LEFT TO LOWER RIGHT FILL;",
      "1RIGHT TO LOWER LEFT FILL;1AND LOWER TRIANGULAR HALF BLOCK;",
      "0LEFT AND RIGHT TRIANGULAR HALF BLOCK;",
      "0UPPER LEFT TRIANGULAR MEDIUM SHADE;1RIGHT TRIANGULAR MEDIUM SHADE;",
      "0LOWER RIGHT TRIANGULAR MEDIUM SHADE;1LEFT TRIANGULAR MEDIUM SHADE;",
      "0BOX DRAWINGS LIGHT DIAGONAL UPPER CENTRE TO MIDDLE LEFT;8RIGHT;",
      "4MIDDLE LEFT TO LOWER CENTRE;5RIGHT TO LOWER CENTRE;",
      "4UPPER CENTRE TO MIDDLE LEFT TO LOWER CENTRE;8RIGHT TO LOWER CENTRE;",
      "4MIDDLE LEFT TO LOWER CENTRE TO MIDDLE RIGHT;",
      "7UPPER CENTRE TO MIDDLE RIGHT;",
      "4UPPER CENTRE TO MIDDLE LEFT AND MIDDLE RIGHT TO LOWER CENTRE;",
      "8RIGHT AND MIDDLE LEFT TO LOWER CENTRE;",
      "9TO LOWER CENTRE TO MIDDLE LEFT;",
      "8LEFT TO LOWER CENTRE TO MIDDLE RIGHT;",
      "4MIDDLE LEFT TO UPPER CENTRE TO MIDDLE RIGHT TO LOWER CENTRE;",
      "5RIGHT TO UPPER CENTRE TO MIDDLE LEFT TO LOWER CENTRE;4DIAMOND;",
      "3HORIZONTAL WITH VERTICAL STROKE;0ARROWHEAD-SHAPED POINTER;",
      "0INVERSE CHECK MARK;0LEFT HALF RUNNING MAN;0RIGHT HALF RUNNING MAN;",
      "0INVERSE DOWNWARDS ARROW WITH TIP LEFTWARDS;",
      "0LEFTWARDS ARROW AND UPPER AND LOWER ONE EIGHTH BLOCK;",
      "0RIGHTWARDS ARROW AND UPPER AND LOWER ONE EIGHTH BLOCK;",
      "0DOWNWARDS ARROW AND RIGHT ONE EIGHTH BLOCK;",
      "0UPWARDS ARROW AND RIGHT ONE EIGHTH BLOCK;0LEFT HALF FOLDER;",
      "0RIGHT HALF FOLDER;0VOIDED GREEK CROSS;0RIGHT OPEN SQUARED DOT;",
      "0NEGATIVE DIAGONAL CROSS;2MIDDLE RIGHT TO LOWER CENTRE;2DIAMOND;",
      "0WHITE HEAVY SALTIRE WITH ROUNDED CORNERS;",
      "0LEFT THIRD WHITE RIGHT POINTING INDEX;",
      "0MIDDLE THIRD WHITE RIGHT POINTING INDEX;",
      "0RIGHT THIRD WHITE RIGHT POINTING INDEX;",
      "0NEGATIVE SQUARED QUESTION MARK;0STICK FIGURE;2WITH ARMS RAISED;",
      "2LEANING LEFT;3RIGHT;2WITH DRESS;0WHITE UP-POINTING CHEVRON"]⟩,
   ⟨0x1FBF0, ["0SEGMENTED DIGIT ZERO;2ONE;2TWO;2THREE;2FOUR;2FIVE;2SIX;",
      "2SEVEN;2EIGHT;2NINE"]⟩]

end Highlight.Unicode
