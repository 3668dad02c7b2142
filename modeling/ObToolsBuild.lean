import ObToolsBuild.Py.Unicode
import ObToolsBuild.Py.Str
import ObToolsBuild.Py.Loop
import ObToolsBuild.Tupfile.Parse
import ObToolsBuild.Tupfile.Layout
import ObToolsBuild.Resolve.Model
import ObToolsBuild.Resolve.Spec
import ObToolsBuild.Resolve.Correct
import ObToolsBuild.Resolve.Frame
import ObToolsBuild.Gcov.Parse
import ObToolsBuild.Gcov.Classify
import ObToolsBuild.Gcov.Functions
import ObToolsBuild.Gcov.Report
import ObToolsBuild.Pipeline.Naming
import ObToolsBuild.Runner.TestOutput
import ObToolsBuild.Runner.Main
