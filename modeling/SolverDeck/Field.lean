import SolverDeck.Text.Blank

/-!
# Fields

The parameters the solver knows by name. Each has a *key*, by which users name it,
a *label*, which the deck shows, and a *group*, under which it is listed. A
parameter need not be a field: any label can be written to a deck.

* `Field.ofKey?` — the field a user means: blanks around the key and the case of
  the letters A to Z do not matter;
* `Field.setters` — the setters, each of which sets a field of its own. They are named
  for the keys (`Field.setterName`).
-/

namespace SolverDeck

/-- The groups under which fields are listed. -/
inductive Field.Group where
  /-- What is solved. -/
  | problem
  /-- Where it is solved. -/
  | mesh
  /-- What the domain is made of. -/
  | material
  /-- How the iteration is sped up. -/
  | acceleration
  /-- How the equations are solved. -/
  | solver
  /-- Which directions are followed. -/
  | angularQuadrature
deriving DecidableEq, Repr, Inhabited

def Field.Group.name : Field.Group → String
  | problem => "problem"
  | mesh => "mesh"
  | material => "material"
  | acceleration => "acceleration"
  | solver => "solver"
  | angularQuadrature => "angular quadrature"

/-- A parameter the solver knows by name. -/
inductive Field where
  /-- The spatial discretization of the high-order equations. -/
  | discretization
  /-- Is an eigenvalue problem solved? -/
  | eigenvalueProblem
  | fePolynomialDegree
  | firstThermalGroup
  | haveReflectiveBc
  /-- The number of cells in each direction. -/
  | nCells
  | nEnergyGroups
  /-- What the names of the output files begin with. -/
  | outputFilenameBase
  /-- The names of the reflective boundaries. -/
  | reflectiveBoundary
  | spatialDimension
  /-- The far corner of the domain. -/
  | spatialMax
  | transportModel
  /-- Is the mesh generated rather than read? -/
  | meshGenerated
  | meshFilename
  | uniformRefinements
  | fuelPinRadius
  | fuelPinTriangulation
  /-- Does the mesh resolve the pins? -/
  | meshPinResolved
  /-- The subsection that maps material numbers. -/
  | materialSubsection
  /-- The file with the material of each cell. -/
  | materialMapFilename
  /-- The files of the materials by number. -/
  | materialFilenames
  | numberOfMaterials
  /-- The file with the materials inside a pin. -/
  | fuelPinMaterialMapFilename
  | preconditioner
  /-- The relaxation factor of that preconditioner. -/
  | bssorFactor
  /-- Is nonlinear diffusion acceleration used? -/
  | doNda
  | ndaDiscretization
  | ndaLinearSolver
  | ndaPreconditioner
  /-- The relaxation factor of that preconditioner. -/
  | ndaBssorFactor
  | eigenSolver
  /-- The solver within an energy group. -/
  | inGroupSolver
  /-- The linear solver of the high-order equations. -/
  | linearSolver
  /-- The solver across the energy groups. -/
  | multiGroupSolver
  | angularQuad
  | angularQuadOrder
deriving DecidableEq, Repr, Inhabited

namespace Field

/-- All fields, in the order in which they are listed. -/
def all : List Field :=
  [.discretization, .eigenvalueProblem, .fePolynomialDegree, .firstThermalGroup,
   .haveReflectiveBc, .nCells, .nEnergyGroups, .outputFilenameBase, .reflectiveBoundary,
   .spatialDimension, .spatialMax, .transportModel, .meshGenerated, .meshFilename,
   .uniformRefinements, .fuelPinRadius, .fuelPinTriangulation, .meshPinResolved,
   .materialSubsection, .materialMapFilename, .materialFilenames, .numberOfMaterials,
   .fuelPinMaterialMapFilename, .preconditioner, .bssorFactor, .doNda, .ndaDiscretization,
   .ndaLinearSolver, .ndaPreconditioner, .ndaBssorFactor, .eigenSolver, .inGroupSolver,
   .linearSolver, .multiGroupSolver, .angularQuad, .angularQuadOrder]

/-- Every field is listed. -/
theorem mem_all (f : Field) : f ∈ all := by
  cases f <;> decide

/-- The key by which users name a field. -/
def key : Field → String
  | discretization => "discretization"
  | eigenvalueProblem => "eigenvalue_problem"
  | fePolynomialDegree => "fe_polynomial_degree"
  | firstThermalGroup => "first_thermal_group"
  | haveReflectiveBc => "have_reflective_bc"
  | nCells => "n_cells"
  | nEnergyGroups => "n_energy_groups"
  | outputFilenameBase => "output_filename_base"
  | reflectiveBoundary => "reflective_boundary"
  | spatialDimension => "spatial_dimension"
  | spatialMax => "spatial_max"
  | transportModel => "transport_model"
  | meshGenerated => "mesh_generated"
  | meshFilename => "mesh_filename"
  | uniformRefinements => "uniform_refinements"
  | fuelPinRadius => "fuel_pin_radius"
  | fuelPinTriangulation => "fuel_pin_triangulation"
  | meshPinResolved => "mesh_pin_resolved"
  | materialSubsection => "material_subsection"
  | materialMapFilename => "material_map_filename"
  | materialFilenames => "material_filenames"
  | numberOfMaterials => "number_of_materials"
  | fuelPinMaterialMapFilename => "fuel_pin_material_map_filename"
  | preconditioner => "preconditioner"
  | bssorFactor => "bssor_factor"
  | doNda => "do_nda"
  | ndaDiscretization => "nda_discretization"
  | ndaLinearSolver => "nda_linear_solver"
  | ndaPreconditioner => "nda_preconditioner"
  | ndaBssorFactor => "nda_bssor_factor"
  | eigenSolver => "eigen_solver"
  | inGroupSolver => "in_group_solver"
  | linearSolver => "linear_solver"
  | multiGroupSolver => "multi_group_solver"
  | angularQuad => "angular_quad"
  | angularQuadOrder => "angular_quad_order"

/-- The label that a deck shows for a field. -/
def label : Field → String
  | discretization => "ho spatial discretization"
  | eigenvalueProblem => "do eigenvalue calculations"
  | fePolynomialDegree => "finite element polynomial degree"
  | firstThermalGroup => "thermal group boundary"
  | haveReflectiveBc => "have reflective boundary"
  | nCells => "number of cells for x, y, z directions"
  | nEnergyGroups => "number of groups"
  | outputFilenameBase => "output file name base"
  | reflectiveBoundary => "reflective boundary names"
  | spatialDimension => "problem dimension"
  | spatialMax => "x, y, z max values of boundary locations"
  | transportModel => "transport model"
  | meshGenerated => "is mesh generated by deal.II"
  | meshFilename => "mesh file name"
  | uniformRefinements => "uniform refinements"
  | fuelPinRadius => "fuel Pin radius"
  | fuelPinTriangulation => "triangulation type of fuel Pin"
  | meshPinResolved => "is mesh pin-resolved"
  | materialSubsection => "material ID map"
  | materialMapFilename => "material id file name"
  | materialFilenames => "material id file name map"
  | numberOfMaterials => "number of materials"
  | fuelPinMaterialMapFilename => "fuel pin material id file name"
  | preconditioner => "ho preconditioner name"
  | bssorFactor => "ho ssor factor"
  | doNda => "do nda"
  | ndaDiscretization => "nda spatial discretization"
  | ndaLinearSolver => "nda linear solver name"
  | ndaPreconditioner => "nda preconditioner name"
  | ndaBssorFactor => "nda ssor factor"
  | eigenSolver => "eigen solver name"
  | inGroupSolver => "in group solver name"
  | linearSolver => "ho linear solver name"
  | multiGroupSolver => "mg solver name"
  | angularQuad => "angular quadrature name"
  | angularQuadOrder => "angular quadrature order"

/-- The group under which a field is listed. -/
def group : Field → Group
  | discretization | eigenvalueProblem | fePolynomialDegree | firstThermalGroup
    | haveReflectiveBc | nCells | nEnergyGroups | outputFilenameBase
    | reflectiveBoundary | spatialDimension | spatialMax | transportModel => .problem
  | meshGenerated | meshFilename | uniformRefinements | fuelPinRadius
    | fuelPinTriangulation | meshPinResolved => .mesh
  | materialSubsection | materialMapFilename | materialFilenames | numberOfMaterials
    | fuelPinMaterialMapFilename => .material
  | preconditioner | bssorFactor | doNda | ndaDiscretization | ndaLinearSolver
    | ndaPreconditioner | ndaBssorFactor => .acceleration
  | eigenSolver | inGroupSolver | linearSolver | multiGroupSolver => .solver
  | angularQuad | angularQuadOrder => .angularQuadrature

/-- A text without the blanks around it and with its letters A to Z lowered. -/
def normalizedKey (s : String) : List Char :=
  (Text.trim s.toList).map Char.toLower

/-- The field a user names. -/
def ofKey? (s : String) : Option Field :=
  all.find? fun f => f.key.toList == normalizedKey s

/-- The setters by name, each with the field that it sets. -/
def setters : List (String × Field) :=
  [("set_discretization", .discretization),
   ("set_eigenvalue_problem", .eigenvalueProblem),
   ("set_fe_polynomial_degree", .fePolynomialDegree),
   ("set_first_thermal_group", .firstThermalGroup),
   ("set_have_reflective_bc", .haveReflectiveBc),
   ("set_n_cells", .nCells),
   ("set_n_energy_groups", .nEnergyGroups),
   ("set_output_filename_base", .outputFilenameBase),
   ("set_reflective_boundary", .reflectiveBoundary),
   ("set_spatial_dimension", .spatialDimension),
   ("set_spatial_max", .spatialMax),
   ("set_transport_model", .transportModel),
   ("set_mesh_generated", .meshGenerated),
   ("set_mesh_filename", .meshFilename),
   ("set_uniform_refinements", .uniformRefinements),
   ("set_fuel_pin_radius", .fuelPinRadius),
   ("set_fuel_pin_triangulation", .fuelPinTriangulation),
   ("set_mesh_pin_resolved", .meshPinResolved),
   ("set_material_subsection", .materialSubsection),
   ("set_material_map_filename", .materialMapFilename),
   ("set_material_filenames", .materialFilenames),
   ("set_number_of_materials", .numberOfMaterials),
   ("set_fuel_pin_material_map_filename", .fuelPinMaterialMapFilename),
   ("set_preconditioner", .preconditioner),
   ("set_bssor_factor", .bssorFactor),
   ("set_do_nda", .doNda),
   ("set_nda_discretization", .ndaDiscretization),
   ("set_nda_linear_solver", .ndaLinearSolver),
   ("set_nda_preconditioner", .ndaPreconditioner),
   ("set_nda_bssor_factor", .ndaBssorFactor),
   ("set_eigen_solver", .eigenSolver),
   ("set_in_group_solver", .inGroupSolver),
   ("set_linear_solver", .linearSolver),
   ("set_multi_group_solver", .multiGroupSolver),
   ("set_angular_quad", .angularQuad),
   ("set_angular_quad_order", .angularQuadOrder)]

/-- The name under which users look for the setter of a field. -/
def setterName (f : Field) : String :=
  "set_" ++ f.key

/-- The field that the setter with the given name sets. -/
def ofSetterName? (name : String) : Option Field :=
  setters.lookup name

end Field

end SolverDeck
