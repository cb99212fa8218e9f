/-
# Model.Stations -- the lines of the add page and the stations on each

The grid of `AddLinePage` offers twelve lines under short names; `returnArray` gives
the stations the picker then lists, `returnlineName` the identifier the arrivals are
requested under.
-/
import Mathlib.Data.List.Basic

namespace MindTheGap.AddLinePage

set_option autoImplicit false

/-- The names of `lines`, in the order of the grid. -/
def lines : List String :=
  ["MET", "CIR", "DIS", "OVR", "HMC", "BAK", "CEN", "WAT", "VIC", "PIC", "NOR", "JUB"]

/-! ## The stations of each line -/

def bakerloo : List String :=
  ["Baker Street", "Charing Cross", "Edgware Road (Bakerloo)", "Elephant & Castle", "Embankment",
    "Harlesden", "Harrow & Wealdstone", "Kensal Green", "Kenton", "Kilburn Park", "Lambeth North",
    "Maida Vale", "Marylebone", "North Wembley", "Oxford Circus", "Piccadilly Circus",
    "Queens Park", "Regent’s Park", "South Kenton", "Stonebridge Park", "Warwick Avenue",
    "Waterloo", "Wembley Central", "Willesden Junction"]

def central : List String :=
  ["Bank", "Barkingside", "Bethnal Green", "Bond Street", "Buckhurst Hill", "Chancery Lane",
    "Chigwell", "Debden", "Ealing Broadway", "East Acton", "Epping", "Fairlop", "Gants Hill",
    "Grange Hill", "Greenford", "Hainault", "Hanger Lane", "Holborn", "Holland Park",
    "Lancaster Gate", "Leyton", "Leytonstone", "Liverpool Street", "Loughton", "Marble Arch",
    "Mile End", "Newbury Park", "North Acton", "Northolt", "Notting Hill Gate", "Oxford Circus",
    "Perivale", "Queensway", "Redbridge", "Roding Valley", "Ruislip Gardens",
    "Shepherd’s Bush (Central)", "Snaresbrook", "South Ruislip", "South Woodford", "St. Paul’s",
    "Stratford", "Theydon Bois", "Tottenham Court Road", "Wanstead", "West Acton", "West Ruislip",
    "White City", "Woodford"]

def circle : List String :=
  ["Aldgate", "Baker Street", "Barbican", "Bayswater", "Blackfriars", "Cannon Street",
    "Edgware Road (Circle Line)", "Embankment", "Euston Square", "Farringdon", "Gloucester Road",
    "Goldhawk Road", "Great Portland Street", "Hammersmith", "High Street Kensington",
    "King’s Cross St. Pancras", "Ladbroke Grove", "Latimer Road", "Liverpool Street",
    "Mansion House", "Monument", "Moorgate", "Notting Hill Gate", "Paddington (Circle)",
    "Royal Oak", "Shepherd’s Bush Market", "Sloane Square", "South Kensington",
    "St. James’s Park", "Temple", "Tower Hill", "Victoria", "Westbourne Park", "Westminster",
    "Wood Lane"]

def district : List String :=
  ["Acton Town", "Aldgate East", "Barking", "Barons Court", "Bayswater", "Becontree",
    "Blackfriars", "Bow Church", "Bow Road", "Bromley-by-Bow", "Cannon Street", "Chiswick Park",
    "Dagenham East", "Dagenham Heathway", "Ealing Broadway", "Ealing Common", "Earl’s Court",
    "East Ham", "East Putney", "Edgware Road", "Elm Park", "Embankment", "Fulham Broadway",
    "Gloucester Road", "Gunnersbury", "Hammersmith", "High Street Kensington", "Hornchurch",
    "Kensington", "Kew Gardens", "Mansion House", "Monument", "Notting Hill Gate", "Paddington",
    "Parsons Green", "Plaistow", "Putney Bridge", "Ravenscourt Park", "Richmond", "Sloane Square",
    "South Kensington", "Southfields", "St. James’s Park", "Stamford Brook", "Stepney Green",
    "Temple", "Tower Hill", "Turnham Green", "Upminster", "Upminster Bridge", "Upney",
    "Upton Park", "Victoria", "West Brompton", "West Ham", "West Kensington", "Westminster",
    "Whitechapel", "Wimbledon", "Wimbledon Park"]

def hammersmithcity : List String :=
  ["Aldgate East", "Baker Street", "Barbican", "Barking", "Bow Road", "Bromley-by-Bow",
    "East Ham", "Euston Square", "Farringdon", "Goldhawk Road", "Great Portland Street",
    "Hammersmith (H&C Line)", "Kings Cross St. Pancras", "Ladbroke Grove", "Latimer Road",
    "Liverpool Street", "Mile End", "Moorgate", "Paddington (H&C Line)", "Plaistow", "Royal Oak",
    "Shepherds Bush Market", "Stepney Green", "Upton Park", "West Ham", "Westbourne Park",
    "Whitechapel", "Wood Lane"]

def metropolitan : List String :=
  ["Aldgate", "Amersham", "Baker Street", "Barbican", "Chalfont & Latimer", "Chesham",
    "Chorleywood", "Croxley", "Eastcote", "Euston Square", "Farringdon", "Finchley Road",
    "Great Portland Street", "Harrow-on-the-Hill", "Hillingdon", "Ickenham",
    "King’s Cross St. Pancras", "Liverpool Street", "Moor Park", "Moorgate", "North Harrow",
    "Northwick Park", "Northwood", "Northwood Hills", "Pinner", "Preston Road", "Rickmansworth",
    "Ruislip", "Ruislip Manor", "Uxbridge", "Watford", "Wembley Park", "West Harrow"]

def northern : List String :=
  ["Angel", "Archway", "Balham", "Bank", "Belsize Park", "Borough", "Brent Cross", "Burnt Oak",
    "Camden Town", "Chalk Farm", "Charing Cross", "Clapham Common", "Clapham North",
    "Clapham South", "Colindale", "Colliers Wood", "East Finchley", "Edgware",
    "Elephant & Castle", "Embankment", "Euston", "Finchley Central", "Golders Green",
    "Goodge Street", "Hampstead", "Hendon Central", "High Barnet", "Highgate", "Kennington",
    "Kentish Town", "King’s Cross St. Pancras", "Leicester Square", "London Bridge",
    "Mill Hill East", "Moorgate", "Morden", "Mornington Crescent", "Old Street", "Oval",
    "South Wimbledon", "Stockwell", "Tooting Bec", "Tooting Broadway", "Tottenham Court Road",
    "Totteridge & Whetstone", "Tufnell Park", "Warren Street", "Waterloo", "West Finchley",
    "Woodside Park"]

def overground : List String :=
  ["Acton Central", "Anerley", "Barking", "Bethnal Green", "Blackhorse Road", "Brockley",
    "Brondesbury", "Brondesbury Park", "Bruce Grove", "Bush Hill Park", "Bushey",
    "Caledonian Road & Barnsbury", "Cambridge Heath", "Camden Road", "Canada Water", "Canonbury",
    "Carpenders Park", "Cheshunt", "Chingford", "Clapham High Street", "Clapham Junction",
    "Clapton", "Crouch Hill", "Crystal Palace", "Dalston Junction", "Dalston Kingsland",
    "Denmark Hill", "Edmonton Green", "Emerson Park", "Enfield Town", "Euston",
    "Finchley Road & Frognal", "Forest Hill", "Gospel Oak", "Gunnersbury", "Hackney Central",
    "Hackney Downs", "Hackney Wick", "Haggerston", "Hampstead Heath", "Harlesden",
    "Harringay Green Lanes", "Harrow & Wealdstone", "Hatch End", "Headstone Lane", "Highams Park",
    "Highbury & Islington", "Homerton", "Honor Oak Park", "Hoxton", "Imperial Wharf",
    "Kensal Green", "Kensal Rise", "Kensington", "Kentish Town West", "Kenton", "Kew Gardens",
    "Kilburn High Road", "Leyton Midland Road", "Leytonstone High Road", "Liverpool Street",
    "London Fields", "New Cross", "New Cross Gate", "North Wembley", "Norwood Junction",
    "Peckham Rye", "Penge West", "Queens Park", "Queens Road Peckham", "Rectory Road", "Richmond",
    "Romford", "Rotherhithe", "Seven Sisters", "Shadwell", "Shepherds Bush",
    "Shoreditch High Street", "Silver Street", "South Acton", "South Hampstead", "South Kenton",
    "South Tottenham", "Southbury", "St James Street", "Stamford Hill", "Stoke Newington",
    "Stonebridge Park", "Stratford", "Surrey Quays", "Sydenham", "Theobalds Grove",
    "Turkey Street", "Upminster", "Upper Holloway", "Walthamstow Central",
    "Walthamstow Queens Road", "Wandsworth Road", "Wanstead Park", "Wapping",
    "Watford High Street", "Watford Junction", "Wembley Central", "West Brompton", "West Croydon",
    "West Hampstead", "White Hart Lane", "Whitechapel", "Willesden Junction", "Wood Street",
    "Woodgrange Park"]

def piccadilly : List String :=
  ["Acton Town", "Alperton", "Arnos Grove", "Arsenal", "Barons Court", "Boston Manor",
    "Bounds Green", "Caledonian Road", "Cockfosters", "Covent Garden", "Ealing Common",
    "Earl’s Court", "Eastcote", "Finsbury Park", "Gloucester Road", "Green Park", "Hammersmith",
    "Hatton Cross", "Heathrow Terminal 4", "Heathrow Terminal 5", "Heathrow Terminals 2 & 3",
    "Hillingdon", "Holborn", "Holloway Road", "Hounslow Central", "Hounslow East",
    "Hounslow West", "Hyde Park Corner", "Ickenham", "King’s Cross St. Pancras", "Knightsbridge",
    "Leicester Square", "Manor House", "North Ealing", "Northfields", "Oakwood", "Osterley",
    "Park Royal", "Piccadilly Circus", "Rayners Lane", "Ruislip", "Ruislip Manor",
    "Russell Square", "South Ealing", "South Harrow", "South Kensington", "Southgate",
    "Sudbury Hill", "Sudbury Town", "Turnham Green", "Turnpike Lane", "Uxbridge", "Wood Green"]

def victoria : List String :=
  ["Blackhorse Road", "Brixton", "Euston", "Finsbury Park", "Green Park", "Highbury & Islington",
    "King’s Cross St. Pancras", "Oxford Circus", "Pimlico", "Seven Sisters", "Stockwell",
    "Tottenham Hale", "Vauxhall", "Victoria", "Walthamstow Central", "Warren Street"]

def waterloocity : List String :=
  ["Bank", "Waterloo"]

def jubilee : List String :=
  ["Baker Street", "Bermondsey", "Bond Street", "Canada Water", "Canary Wharf", "Canning Town",
    "Canons Park", "Dollis Hill", "Finchley Road", "Green Park", "Kilburn", "Kingsbury",
    "London Bridge", "Neasden", "North Greenwich", "Queensbury", "Southwark", "St. John’s Wood",
    "Stanmore", "Stratford", "Swiss Cottage", "Waterloo", "Wembley Park", "West Ham",
    "West Hampstead", "Westminster", "Willesden Green"]

/-! ## What a tap on the grid selects -/

def returnArray (station : String) : List String :=
  match station with
  | "MET" => metropolitan
  | "CIR" => circle
  | "DIS" => district
  | "OVR" => overground
  | "HMC" => hammersmithcity
  | "BAK" => bakerloo
  | "CEN" => central
  | "WAT" => waterloocity
  | "VIC" => victoria
  | "PIC" => piccadilly
  | "NOR" => northern
  | "JUB" => jubilee
  | _ => bakerloo

def returnlineName (station : String) : String :=
  match station with
  | "MET" => "metropolitan"
  | "CIR" => "circle"
  | "DIS" => "district"
  | "OVR" => "london-overground"
  | "HMC" => "hammersmith-city"
  | "BAK" => "bakerloo"
  | "CEN" => "central"
  | "WAT" => "waterloo-city"
  | "VIC" => "victoria"
  | "PIC" => "piccadilly"
  | "NOR" => "northern"
  | "JUB" => "jubilee"
  | _ => "bakerloo"

end MindTheGap.AddLinePage
